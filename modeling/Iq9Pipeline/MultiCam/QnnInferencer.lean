import Iq9Pipeline.MultiCam.DmaBuffer
import Mathlib.Tactic.Abel

/-!
What `QnnInferencer` acquires of the neural network runtime in its four phases, and what
`ArcFaceInfer` does with a network that has the wrong outputs. `Destroy` leaves alone what the
runtime names no function to free with, and it takes the first graph for granted.
-/

namespace Iq9Pipeline.MultiCam

open Foundation HandleCall

/-- What the first phase sets of `impl_`; `frees` says which functions to free with are in the
table. -/
structure QnnBackend where
  libhandle : Option Nat
  frees : QnnHandle → Bool
  logger : Option Nat
  profiler : Option Nat
  device : Option Nat
  backend : Option Nat
  devicePlatform : Option Nat

/-- What the third phase sets of `impl_`; the entries of `graphInfos` point into `graphs`, and
`first` is what is read as the first of them. -/
structure QnnGraphs where
  sysctx : Option Nat
  graphInfos : Option Nat
  graphs : Option Nat
  first : Option Nat
  context : Option Nat

structure QnnImpl where
  backend : QnnBackend
  syslibhandle : Option Nat
  graphs : QnnGraphs
  outputElemCounts : List UInt32

/-- What the description of a cached model says: of each of its graphs, whether its version
is supported, and the dimensions of the output tensors of what is read as the first. -/
structure BinaryInfo where
  supported : Bool
  graphs : List Bool
  inputTensors : Nat
  outputTensors : List (List UInt32)

structure QnnAnswers where
  impl : Nat
  dlopen : Option Nat
  symbol : Bool
  providers : Bool
  frees : QnnHandle → Bool
  logger : Option Nat
  backend : Option Nat
  profiler : Option Nat
  devicePlatform : Option Nat
  deviceListed : Bool
  device : Option Nat
  dlopenSystem : Option Nat
  systemSymbol : Bool
  systemProviders : Bool
  modelRead : Bool
  systemFunctions : Bool
  sysctx : Option Nat
  binaryInfo : Option BinaryInfo
  graphInfos : Nat
  graphs : Nat
  /-- What is read behind an array of no graphs. -/
  behind : Option Nat
  contextFunction : Bool
  context : Option Nat
  graphRetrieve : List Bool

namespace QnnAnswers

def runtimeHandles : List QnnHandle :=
  [.log, .backend, .profile, .platformInfo, .device, .context]

/-- The runtime names every function to free with, and the model has a graph. -/
def Complete (answers : QnnAnswers) : Prop :=
  (∀ kind ∈ runtimeHandles, answers.frees kind = true) ∧
    answers.binaryInfo.all (fun info => !info.graphs.isEmpty) = true

instance (answers : QnnAnswers) : Decidable answers.Complete :=
  inferInstanceAs (Decidable (_ ∧ _))

end QnnAnswers

def tensorElementCount (dimensions : List UInt32) : UInt32 :=
  dimensions.foldl (· * ·) 1

namespace QnnBackend

def fresh : QnnBackend where
  libhandle := none
  frees := fun _ => false
  logger := none
  profiler := none
  device := none
  backend := none
  devicePlatform := none

def owned (part : QnnBackend) : Multiset Resource :=
  Staged.holding part.device (.qnn .device) +
    (Staged.holding part.devicePlatform (.qnn .platformInfo) +
      (Staged.holding part.profiler (.qnn .profile) +
        (Staged.holding part.backend (.qnn .backend) +
          (Staged.holding part.logger (.qnn .log) + Staged.holding part.libhandle .library))))

def loadBackend (part : QnnBackend) (answers : QnnAnswers) : Staged QnnBackend Resource :=
  (Staged.obtain answers.dlopen .library (fun id => { part with libhandle := some id })
    part).andThen fun part =>
  (Staged.check (answers.symbol && answers.providers) part).andThen fun part =>
  (Staged.check true { part with frees := answers.frees }).andThen fun part =>
  (Staged.obtain answers.logger (.qnn .log) (fun id => { part with logger := some id })
    part).andThen fun part =>
  (Staged.obtain answers.backend (.qnn .backend) (fun id => { part with backend := some id })
    part).andThen fun part =>
  (Staged.obtain answers.profiler (.qnn .profile) (fun id => { part with profiler := some id })
    part).andThen fun part =>
  -- without platform information or a device the runtime chooses one itself
  ((Staged.obtain answers.devicePlatform (.qnn .platformInfo)
      (fun id => { part with devicePlatform := some id }) part).andThen fun part =>
    (Staged.check answers.deviceListed part).andThen fun part =>
    Staged.obtain answers.device (.qnn .device) (fun id => { part with device := some id })
      part).tolerate

theorem keeps_loadBackend (answers : QnnAnswers) :
    (fresh.loadBackend answers).Keeps owned fresh.owned := by
  refine Staged.keeps_obtainThen (fun id => rfl) fun library => ?_
  refine Staged.keeps_checkThen ?_
  refine Staged.Keeps.andThen (Transfers.nil _) fun _ => ?_
  refine Staged.keeps_obtainThen (fun id => rfl) fun logger => ?_
  refine Staged.keeps_obtainThen (fun id => rfl) fun backend => ?_
  refine Staged.keeps_obtainThen (fun id => rfl) fun profiler => ?_
  refine Staged.Keeps.tolerate ?_
  refine Staged.keeps_obtainThen (fun id => rfl) fun platform => ?_
  refine Staged.keeps_checkThen ?_
  exact Staged.keeps_obtain fun id => rfl

def free (part : QnnBackend) (kind : QnnHandle) (held : Option Nat) : List SystemCall :=
  if part.frees kind then Staged.giveBack held (.qnn kind) else []

def Freeing (part : QnnBackend) : Prop :=
  ∀ kind ∈ QnnAnswers.runtimeHandles, part.frees kind = true

def Idle (part : QnnBackend) : Prop :=
  ∃ libhandle, part = { fresh with libhandle := libhandle }

theorem leaves_loadBackend {answers : QnnAnswers} (complete : answers.Complete) :
    (fresh.loadBackend answers).Leaves Freeing fun part => part.Freeing ∨ part.Idle := by
  have named : ∀ kind ∈ QnnAnswers.runtimeHandles, answers.frees kind = true := complete.1
  refine Staged.leaves_obtainThen (.inr ⟨none, rfl⟩) fun library => ?_
  refine Staged.leaves_checkThen (.inr ⟨some library, rfl⟩) ?_
  refine Staged.leaves_checkThen (.inl named) ?_
  refine Staged.leaves_obtainThen (.inl named) fun logger => ?_
  refine Staged.leaves_obtainThen (.inl named) fun backend => ?_
  refine Staged.leaves_obtainThen (.inl named) fun profiler => ?_
  refine Staged.Leaves.tolerate ?_
  refine Staged.leaves_obtainThen named fun platform => ?_
  refine Staged.leaves_checkThen named ?_
  exact Staged.leaves_obtain (fun device => named) named

theorem clears_free {part : QnnBackend} {kind : QnnHandle} {held : Option Nat}
    (freed : part.frees kind = true ∨ held = none) :
    Transfers (part.free kind held) (Staged.holding held (.qnn kind)) 0 := by
  rw [free]
  split
  · exact Staged.clears_giveBack held (Resource.qnn kind)
  · rename_i unnamed
    obtain rfl := freed.resolve_left unnamed
    exact Transfers.nil 0

end QnnBackend

namespace QnnGraphs

def fresh : QnnGraphs :=
  ⟨none, none, none, none, none⟩

def owned (part : QnnGraphs) : Multiset Resource :=
  Staged.holding part.sysctx (.qnn .systemContext) +
    (Staged.holding part.graphs .allocation + (Staged.holding part.graphInfos .allocation +
      Staged.holding part.context (.qnn .context)))

def releaseGraphs (part : QnnGraphs) : Staged QnnGraphs Resource where
  object := { part with graphInfos := none, graphs := none, first := none }
  calls := Staged.giveBack part.graphs .allocation ++
    Staged.giveBack part.graphInfos .allocation
  ok := true

def graphInfoFromBinaryInfo (part : QnnGraphs) (info : BinaryInfo) (answers : QnnAnswers) :
    Staged QnnGraphs Resource :=
  (Staged.check info.supported part).andThen fun part =>
  (Staged.obtain (some answers.graphInfos) .allocation
    (fun id => { part with graphInfos := some id }) part).andThen fun part =>
  (Staged.obtain (some answers.graphs) .allocation
    (fun id => { part with
      graphs := some id
      first := if info.graphs = [] then answers.behind else some id }) part).andThen fun part =>
  (Staged.check (info.graphs.all id) part).orElse releaseGraphs

def loadCachedGraphs (part : QnnGraphs) (answers : QnnAnswers) : Staged QnnGraphs Resource :=
  (Staged.check (answers.modelRead && answers.systemFunctions) part).andThen fun part =>
  (Staged.obtain answers.sysctx (.qnn .systemContext) (fun id => { part with sysctx := some id })
    part).andThen fun part =>
  match answers.binaryInfo with
  | none => Staged.check false part
  | some info =>
      (part.graphInfoFromBinaryInfo info answers).andThen fun part =>
      (Staged.check answers.contextFunction part).andThen fun part =>
      (Staged.obtain answers.context (.qnn .context) (fun id => { part with context := some id })
        part).andThen fun part =>
      Staged.check (answers.graphRetrieve.all id) part

theorem keeps_releaseGraphs (part : QnnGraphs) :
    part.releaseGraphs.Keeps owned part.owned := by
  have released := ((Staged.clears_giveBack part.graphs Resource.allocation).clear
    (Staged.clears_giveBack part.graphInfos Resource.allocation)).beside
      (Staged.holding part.sysctx (.qnn .systemContext) +
        Staged.holding part.context (.qnn .context))
  have split : part.owned = Staged.holding part.graphs .allocation +
      Staged.holding part.graphInfos .allocation +
      (Staged.holding part.sysctx (.qnn .systemContext) +
        Staged.holding part.context (.qnn .context)) := by
    rw [owned]
    abel
  have left : owned part.releaseGraphs.object =
      0 + (Staged.holding part.sysctx (.qnn .systemContext) +
        Staged.holding part.context (.qnn .context)) := by
    rw [owned]
    simp [releaseGraphs, Staged.holding]
  rw [Staged.Keeps, split, left]
  exact released

theorem graphInfoFromBinaryInfo_context (part : QnnGraphs) (info : BinaryInfo)
    (answers : QnnAnswers) :
    (part.graphInfoFromBinaryInfo info answers).object.context = part.context := by
  simp only [graphInfoFromBinaryInfo, Staged.check, Staged.obtain, Staged.andThen, Staged.orElse]
  cases info.supported <;> cases info.graphs.all id <;> rfl

theorem keeps_graphInfo {part : QnnGraphs} (info : BinaryInfo) (answers : QnnAnswers)
    (unset : part.graphInfos = none ∧ part.graphs = none) :
    (part.graphInfoFromBinaryInfo info answers).Keeps owned part.owned := by
  obtain ⟨noInfos, noGraphs⟩ := unset
  apply Staged.keeps_checkThen
  apply Staged.keeps_obtainThen
  · intro id
    simp only [owned, noInfos, Staged.holding, Option.elim_none, Option.elim_some]
    rw [← Multiset.singleton_add]
    abel
  · intro graphInfos
    apply Staged.keeps_obtainThen
    · intro id
      simp only [owned, noGraphs, Staged.holding, Option.elim_none, Option.elim_some]
      rw [← Multiset.singleton_add]
      abel
    · intro graphs
      exact (Staged.keeps_check _).orElse (keeps_releaseGraphs _)

theorem owned_context {part : QnnGraphs} (closed : part.context = none) (id : Nat) :
    owned { part with context := some id } = .qnn .context id ::ₘ owned part := by
  simp only [owned, closed, Staged.holding, Option.elim_none, Option.elim_some]
  rw [← Multiset.singleton_add]
  abel

theorem keeps_loadCachedGraphs (answers : QnnAnswers) :
    (fresh.loadCachedGraphs answers).Keeps owned fresh.owned := by
  refine Staged.keeps_checkThen ?_
  refine Staged.keeps_obtainThen (fun id => rfl) fun sysctx => ?_
  split
  · exact Staged.keeps_check false
  · rename_i info _
    refine (keeps_graphInfo info answers ⟨rfl, rfl⟩).andThen fun _ => ?_
    refine Staged.keeps_checkThen ?_
    refine Staged.Keeps.andThen ?_ fun _ => Staged.keeps_check _
    exact Staged.keeps_obtain fun id =>
      owned_context (graphInfoFromBinaryInfo_context _ info answers) id

def Joined (part : QnnGraphs) : Prop :=
  part.first = part.graphs

theorem leaves_graphInfo {part : QnnGraphs} {info : BinaryInfo} {answers : QnnAnswers}
    (nonempty : info.graphs ≠ []) (joined : part.Joined) :
    (part.graphInfoFromBinaryInfo info answers).Leaves Joined Joined := by
  refine Staged.leaves_checkThen joined ?_
  refine Staged.leaves_obtainThen joined fun graphInfos => ?_
  refine Staged.leaves_obtainThen joined fun graphs => ?_
  have entered : Joined { part with
      graphInfos := some graphInfos
      graphs := some graphs
      first := if info.graphs = [] then answers.behind else some graphs } := if_neg nonempty
  exact (Staged.leaves_check entered entered).orElse fun _ _ => rfl

theorem leaves_loadCachedGraphs {answers : QnnAnswers} (complete : answers.Complete) :
    (fresh.loadCachedGraphs answers).Leaves Joined Joined := by
  refine Staged.leaves_checkThen rfl ?_
  refine Staged.leaves_obtainThen rfl fun sysctx => ?_
  split
  · exact Staged.leaves_check rfl rfl
  · rename_i info described
    have nonempty : info.graphs ≠ [] := by
      have listed := complete.2
      rw [described] at listed
      simpa using listed
    have joined : Joined { fresh with sysctx := some sysctx } := rfl
    refine (leaves_graphInfo nonempty joined).andThen fun part joined => ?_
    refine Staged.leaves_checkThen joined ?_
    refine Staged.leaves_obtainThen joined fun context => ?_
    exact Staged.leaves_check joined joined

end QnnGraphs

namespace QnnImpl

def fresh : QnnImpl :=
  ⟨.fresh, none, .fresh, []⟩

def owned (impl : QnnImpl) : Multiset Resource :=
  impl.graphs.owned + (impl.backend.owned + Staged.holding impl.syslibhandle .library)

def loadSystemLib (impl : QnnImpl) (answers : QnnAnswers) : Staged QnnImpl Resource :=
  (Staged.obtain answers.dlopenSystem .library (fun id => { impl with syslibhandle := some id })
    impl).andThen fun impl =>
  Staged.check (answers.systemSymbol && answers.systemProviders) impl

def allocTensorBuffers (impl : QnnImpl) (answers : QnnAnswers) : Staged QnnImpl Resource :=
  match answers.binaryInfo with
  | none => Staged.check false impl
  | some info =>
      if info.inputTensors < 1 then Staged.check false impl
      else Staged.check true
        { impl with outputElemCounts := info.outputTensors.map tensorElementCount }

def load (answers : QnnAnswers) : Staged QnnImpl Resource :=
  ((QnnBackend.fresh.loadBackend answers).inside
    fun part => ⟨part, none, .fresh, []⟩).andThen fun impl =>
  (impl.loadSystemLib answers).andThen fun impl =>
  ((impl.graphs.loadCachedGraphs answers).inside
    fun part => { impl with graphs := part }).andThen fun impl =>
  impl.allocTensorBuffers answers

def release (impl : QnnImpl) : List SystemCall :=
  Staged.giveBack impl.graphs.sysctx (.qnn .systemContext) ++
    (Staged.giveBack impl.graphs.first .allocation ++
      (Staged.giveBack impl.graphs.graphInfos .allocation ++
        (impl.backend.free .context impl.graphs.context ++
          (impl.backend.free .device impl.backend.device ++
            (impl.backend.free .platformInfo impl.backend.devicePlatform ++
              (impl.backend.free .profile impl.backend.profiler ++
                (impl.backend.free .backend impl.backend.backend ++
                  (impl.backend.free .log impl.backend.logger ++
                    (Staged.giveBack impl.syslibhandle .library ++
                      Staged.giveBack impl.backend.libhandle .library)))))))))

/-- What the runtime names no function for is left. -/
theorem release_of_unnamed (impl : QnnImpl) {kind : QnnHandle}
    (listed : kind ∈ QnnAnswers.runtimeHandles) (unnamed : impl.backend.frees kind = false)
    (id : Nat) : .release (.qnn kind id) ∉ impl.release := by
  have other {named : QnnHandle} {held : Option Nat} :
      .release (Resource.qnn kind id) ∉ impl.backend.free named held := by
    rw [QnnBackend.free]
    split
    · rename_i frees
      have different : named ≠ kind := by
        rintro rfl
        rw [unnamed] at frees
        cases frees
      simp [Staged.giveBack, different]
    · exact List.not_mem_nil
  have inner : QnnHandle.systemContext ≠ kind := by
    rintro rfl
    revert listed
    decide
  simp [release, other, Staged.giveBack, inner]

structure Releasable (impl : QnnImpl) : Prop where
  joined : impl.graphs.Joined
  freed : impl.backend.Freeing ∨ impl.backend.Idle ∧ impl.graphs.context = none

theorem Releasable.frees {impl : QnnImpl} (releasable : impl.Releasable) {kind : QnnHandle}
    (listed : kind ∈ QnnAnswers.runtimeHandles) {held : Option Nat}
    (idle : impl.backend.Idle → impl.graphs.context = none → held = none) :
    impl.backend.frees kind = true ∨ held = none :=
  releasable.freed.imp (fun freeing => freeing kind listed) fun unused => idle unused.1 unused.2

theorem clears_release {impl : QnnImpl} (releasable : impl.Releasable) :
    Transfers impl.release impl.owned 0 := by
  have split : impl.owned = Staged.holding impl.graphs.sysctx (.qnn .systemContext) +
      (Staged.holding impl.graphs.graphs .allocation +
        (Staged.holding impl.graphs.graphInfos .allocation +
          (Staged.holding impl.graphs.context (.qnn .context) +
            (Staged.holding impl.backend.device (.qnn .device) +
              (Staged.holding impl.backend.devicePlatform (.qnn .platformInfo) +
                (Staged.holding impl.backend.profiler (.qnn .profile) +
                  (Staged.holding impl.backend.backend (.qnn .backend) +
                    (Staged.holding impl.backend.logger (.qnn .log) +
                      (Staged.holding impl.syslibhandle .library +
                        Staged.holding impl.backend.libhandle .library))))))))) := by
    simp only [owned, QnnGraphs.owned, QnnBackend.owned]
    abel
  have unused {held : QnnBackend → Option Nat}
      (fresh : ∀ libhandle, held { QnnBackend.fresh with libhandle := libhandle } = none) :
      impl.backend.Idle → impl.graphs.context = none → held impl.backend = none := by
    rintro ⟨libhandle, same⟩ _
    rw [same, fresh]
  rw [split, release, releasable.joined]
  refine (Staged.clears_giveBack _ (Resource.qnn .systemContext)).clear ?_
  refine (Staged.clears_giveBack _ Resource.allocation).clear ?_
  refine (Staged.clears_giveBack _ Resource.allocation).clear ?_
  refine (QnnBackend.clears_free (releasable.frees (by decide) fun _ => id)).clear ?_
  refine (QnnBackend.clears_free (releasable.frees (by decide) (unused fun _ => rfl))).clear ?_
  refine (QnnBackend.clears_free (releasable.frees (by decide) (unused fun _ => rfl))).clear ?_
  refine (QnnBackend.clears_free (releasable.frees (by decide) (unused fun _ => rfl))).clear ?_
  refine (QnnBackend.clears_free (releasable.frees (by decide) (unused fun _ => rfl))).clear ?_
  refine (QnnBackend.clears_free (releasable.frees (by decide) (unused fun _ => rfl))).clear ?_
  refine (Staged.clears_giveBack _ Resource.library).clear ?_
  exact Staged.clears_giveBack _ Resource.library

theorem keeps_loadSystemLib {impl : QnnImpl} (answers : QnnAnswers)
    (unset : impl.syslibhandle = none) :
    (impl.loadSystemLib answers).Keeps owned impl.owned := by
  apply Staged.keeps_obtainThen
  · intro id
    simp only [owned, unset, Staged.holding, Option.elim_none, Option.elim_some]
    rw [← Multiset.singleton_add]
    abel
  · exact fun id => Staged.keeps_check _

theorem loadSystemLib_graphs (impl : QnnImpl) (answers : QnnAnswers) :
    (impl.loadSystemLib answers).object.graphs = impl.graphs := by
  simp only [loadSystemLib, Staged.obtain, Staged.check, Staged.andThen]
  cases answers.dlopenSystem <;> rfl

theorem keeps_allocTensorBuffers (impl : QnnImpl) (answers : QnnAnswers) :
    (impl.allocTensorBuffers answers).Keeps owned impl.owned := by
  rw [allocTensorBuffers]
  split
  · exact Staged.keeps_check false
  · split
    · exact Staged.keeps_check false
    · exact Transfers.nil _

theorem owned_backend (part : QnnBackend) : owned ⟨part, none, .fresh, []⟩ = part.owned + 0 := by
  change 0 + (part.owned + 0) = part.owned + 0
  abel

theorem owned_graphs (impl : QnnImpl) (part : QnnGraphs) :
    owned { impl with graphs := part } =
      part.owned + (impl.backend.owned + Staged.holding impl.syslibhandle .library) :=
  rfl

theorem keeps_graphs {impl : QnnImpl} (answers : QnnAnswers) (unset : impl.graphs = .fresh) :
    (((impl.graphs.loadCachedGraphs answers).inside
      fun part => { impl with graphs := part }).andThen fun impl =>
        impl.allocTensorBuffers answers).Keeps owned impl.owned := by
  obtain ⟨backend, syslibhandle, graphs, counts⟩ := impl
  obtain rfl := unset
  have graphsLoaded := (QnnGraphs.keeps_loadCachedGraphs answers).inside
    (owned_graphs ⟨backend, syslibhandle, .fresh, counts⟩)
  exact Staged.Keeps.andThen graphsLoaded fun _ => keeps_allocTensorBuffers _ answers

theorem keeps_load (answers : QnnAnswers) : (load answers).Keeps owned fresh.owned := by
  refine Staged.Keeps.andThen
    ((QnnBackend.keeps_loadBackend answers).inside owned_backend) fun _ => ?_
  refine (keeps_loadSystemLib answers rfl).andThen fun _ => ?_
  exact keeps_graphs answers (loadSystemLib_graphs _ answers)

theorem leaves_load {answers : QnnAnswers} (complete : answers.Complete) :
    (load answers).Leaves Releasable Releasable := by
  have loaded : ((QnnBackend.fresh.loadBackend answers).inside
      fun part => (⟨part, none, .fresh, []⟩ : QnnImpl)).Leaves
        (fun impl => impl.backend.Freeing ∧ impl.graphs = .fresh) Releasable := by
    apply (QnnBackend.leaves_loadBackend complete).inside
    · exact fun part freeing => ⟨freeing, rfl⟩
    · exact fun part freed => ⟨rfl, freed.imp_right fun idle => ⟨idle, rfl⟩⟩
  refine loaded.andThen fun impl ⟨freeing, unset⟩ => ?_
  have early : impl.Releasable := ⟨by rw [unset]; rfl, .inl freeing⟩
  have opened : (impl.loadSystemLib answers).Leaves
      (fun impl => impl.backend.Freeing ∧ impl.graphs = .fresh) Releasable :=
    Staged.leaves_obtainThen early fun library =>
      Staged.leaves_check ⟨freeing, unset⟩ ⟨early.joined, .inl freeing⟩
  refine opened.andThen fun impl ⟨freeing, unset⟩ => ?_
  have read : ((impl.graphs.loadCachedGraphs answers).inside
      fun part => { impl with graphs := part }).Leaves
        (fun impl => impl.backend.Freeing ∧ impl.graphs.Joined) Releasable := by
    rw [unset]
    apply (QnnGraphs.leaves_loadCachedGraphs complete).inside
    · exact fun part joined => ⟨freeing, joined⟩
    · exact fun part joined => ⟨joined, .inl freeing⟩
  refine read.andThen fun impl ⟨freeing, joined⟩ => ?_
  have late : impl.Releasable := ⟨joined, .inl freeing⟩
  rw [allocTensorBuffers]
  split
  · exact Staged.leaves_check late late
  · split
    · exact Staged.leaves_check late late
    · exact Staged.leaves_check ⟨joined, .inl freeing⟩ ⟨joined, .inl freeing⟩

end QnnImpl

structure QnnInferencer where
  impl : Option (Nat × QnnImpl)
  initialized : Bool

namespace QnnInferencer

def empty : QnnInferencer :=
  ⟨none, false⟩

def owned (qnn : QnnInferencer) : Multiset Resource :=
  qnn.impl.elim 0 fun (allocation, impl) => impl.owned + {.allocation allocation}

def destroy (qnn : QnnInferencer) : Staged QnnInferencer Resource :=
  match qnn.impl with
  | none => Staged.check true qnn
  | some (allocation, impl) => ⟨empty, impl.release ++ [.release (.allocation allocation)], true⟩

def phases (qnn : QnnInferencer) (answers : QnnAnswers) : Staged QnnInferencer Resource :=
  (Staged.obtain (some answers.impl) .allocation
    (fun allocation => { qnn with impl := some (allocation, .fresh) }) qnn).andThen fun qnn =>
  ((QnnImpl.load answers).inside
    fun impl => { qnn with impl := qnn.impl.map fun held => (held.1, impl) }).andThen fun qnn =>
  Staged.check true { qnn with initialized := true }

def init (qnn : QnnInferencer) (answers : QnnAnswers) : Staged QnnInferencer Resource :=
  if qnn.initialized then Staged.check false qnn else (qnn.phases answers).orElse destroy

def getNumOutputTensors (qnn : QnnInferencer) : Nat :=
  match qnn.initialized, qnn.impl with
  | true, some (_, impl) => impl.outputElemCounts.length
  | _, _ => 0

def getOutputTensorSize (qnn : QnnInferencer) (index : Nat) : UInt32 :=
  match qnn.initialized, qnn.impl with
  | true, some (_, impl) => impl.outputElemCounts.getD index 0
  | _, _ => 0

def Releasable (qnn : QnnInferencer) : Prop :=
  ∀ held ∈ qnn.impl, held.2.Releasable

theorem releasable_of_empty {qnn : QnnInferencer} (unset : qnn.impl = none) : qnn.Releasable := by
  intro held present
  rw [unset] at present
  cases present

theorem clears_destroy {qnn : QnnInferencer} (releasable : qnn.Releasable) :
    Transfers qnn.destroy.calls qnn.owned 0 := by
  obtain ⟨impl, initialized⟩ := qnn
  cases impl with
  | none => exact Transfers.nil 0
  | some held =>
      obtain ⟨allocation, impl⟩ := held
      exact (QnnImpl.clears_release (releasable _ rfl)).clear
        (Transfers.release (Resource.allocation allocation) 0)

theorem releasable_empty : empty.Releasable :=
  releasable_of_empty rfl

theorem impl_destroy (qnn : QnnInferencer) : qnn.destroy.object.impl = none := by
  obtain ⟨impl, initialized⟩ := qnn
  cases impl with
  | none => rfl
  | some held => rfl

theorem releasable_destroy (qnn : QnnInferencer) : qnn.destroy.object.Releasable :=
  releasable_of_empty qnn.impl_destroy

theorem owned_destroy (qnn : QnnInferencer) : qnn.destroy.object.owned = 0 := by
  rw [owned, impl_destroy]
  rfl

theorem keeps_destroy {qnn : QnnInferencer} (releasable : qnn.Releasable) :
    qnn.destroy.Keeps owned qnn.owned := by
  rw [Staged.Keeps, owned_destroy]
  exact clears_destroy releasable

theorem owned_impl (allocation : Nat) (impl : QnnImpl) :
    owned ⟨some (allocation, impl), false⟩ = impl.owned + {.allocation allocation} :=
  rfl

theorem leaves_phases {answers : QnnAnswers} (complete : answers.Complete) :
    (empty.phases answers).Leaves Releasable Releasable := by
  refine Staged.leaves_obtainThen releasable_empty fun allocation => ?_
  have lifts (initialized : Bool) (impl : QnnImpl) (releasable : impl.Releasable) :
      Releasable ⟨some (allocation, impl), initialized⟩ := by
    rintro held ⟨⟩
    exact releasable
  have loaded : ((QnnImpl.load answers).inside
      fun impl => (⟨some (allocation, impl), false⟩ : QnnInferencer)).Leaves
        Releasable Releasable :=
    (QnnImpl.leaves_load complete).inside (lifts false) (lifts false)
  refine loaded.andThen fun qnn releasable => ?_
  exact Staged.leaves_check releasable releasable

theorem keeps_phases (answers : QnnAnswers) :
    (empty.phases answers).Keeps owned empty.owned := by
  refine Staged.keeps_obtainThen (fun allocation => rfl) fun allocation => ?_
  have loaded := (QnnImpl.keeps_load answers).inside (owned_impl allocation)
  refine Staged.Keeps.andThen loaded fun _ => ?_
  exact Transfers.nil _

theorem releasable_init {qnn : QnnInferencer} {answers : QnnAnswers}
    (complete : answers.Complete) (releasable : qnn.Releasable)
    (unset : qnn.initialized = false → qnn = empty) : (qnn.init answers).object.Releasable := by
  rw [init]
  split
  · exact releasable
  · rename_i begun
    obtain rfl := unset (by simpa using begun)
    exact ((leaves_phases complete).orElse fun left _ => releasable_destroy left).always

theorem keeps_init {qnn : QnnInferencer} {answers : QnnAnswers} (complete : answers.Complete)
    (unset : qnn.initialized = false → qnn = empty) :
    (qnn.init answers).Keeps owned qnn.owned := by
  rw [init]
  split
  · exact Staged.keeps_check false
  · rename_i begun
    obtain rfl := unset (by simpa using begun)
    exact (keeps_phases answers).orElse (keeps_destroy (leaves_phases complete).always)

end QnnInferencer

structure ArcFaceInfer where
  qnn : QnnInferencer
  initialized : Bool

namespace ArcFaceInfer

def kEmbeddingDim : UInt32 :=
  512

def empty : ArcFaceInfer :=
  ⟨.empty, false⟩

def owned (arcface : ArcFaceInfer) : Multiset Resource :=
  arcface.qnn.owned

def destroy (arcface : ArcFaceInfer) : Staged ArcFaceInfer Resource :=
  arcface.qnn.destroy.inside fun qnn => ⟨qnn, false⟩

def checkOutputs (arcface : ArcFaceInfer) : Staged ArcFaceInfer Resource :=
  (Staged.check (arcface.qnn.getNumOutputTensors = 1 &&
    arcface.qnn.getOutputTensorSize 0 = kEmbeddingDim) arcface).andThen fun arcface =>
  Staged.check true { arcface with initialized := true }

def init (arcface : ArcFaceInfer) (answers : QnnAnswers) : Staged ArcFaceInfer Resource :=
  if arcface.initialized then Staged.check false arcface
  else
    ((arcface.qnn.init answers).inside fun qnn => { arcface with qnn := qnn }).andThen
      fun arcface => arcface.checkOutputs.orElse destroy

def Releasable (arcface : ArcFaceInfer) : Prop :=
  arcface.qnn.Releasable

theorem clears_destroy {arcface : ArcFaceInfer} (releasable : arcface.Releasable) :
    Transfers arcface.destroy.calls arcface.owned 0 :=
  QnnInferencer.clears_destroy releasable

theorem owned_qnn (initialized : Bool) (qnn : QnnInferencer) :
    owned ⟨qnn, initialized⟩ = qnn.owned + 0 :=
  (add_zero _).symm

theorem keeps_destroy {arcface : ArcFaceInfer} (releasable : arcface.Releasable) :
    arcface.destroy.Keeps owned arcface.owned :=
  QnnInferencer.keeps_destroy releasable

theorem leaves_checkOutputs {arcface : ArcFaceInfer} (releasable : arcface.Releasable) :
    arcface.checkOutputs.Leaves Releasable Releasable :=
  Staged.leaves_checkThen releasable (Staged.leaves_check releasable releasable)

theorem keeps_checkOutputs (arcface : ArcFaceInfer) :
    arcface.checkOutputs.Keeps owned arcface.owned :=
  Staged.keeps_checkThen (Transfers.nil _)

theorem releasable_init {arcface : ArcFaceInfer} {answers : QnnAnswers}
    (complete : answers.Complete) (releasable : arcface.Releasable)
    (unset : arcface.initialized = false → arcface = empty) :
    (arcface.init answers).object.Releasable := by
  rw [init]
  split
  · exact releasable
  · rename_i begun
    obtain rfl := unset (by simpa using begun)
    have started : ((QnnInferencer.empty.init answers).inside
        fun qnn => (⟨qnn, false⟩ : ArcFaceInfer)).Leaves Releasable Releasable := by
      have left := QnnInferencer.releasable_init complete releasable fun _ => rfl
      rwa [Staged.Leaves, ite_self]
    refine (started.andThen fun arcface releasable => ?_).always
    exact (leaves_checkOutputs releasable).orElse fun left _ =>
      QnnInferencer.releasable_destroy left.qnn

theorem keeps_init {arcface : ArcFaceInfer} {answers : QnnAnswers} (complete : answers.Complete)
    (unset : arcface.initialized = false → arcface = empty) :
    (arcface.init answers).Keeps owned arcface.owned := by
  rw [init]
  split
  · exact Staged.keeps_check false
  · rename_i begun
    obtain rfl := unset (by simpa using begun)
    have started := (QnnInferencer.keeps_init complete fun _ => rfl).inside (owned_qnn false)
    refine Staged.Keeps.andThen started fun _ => ?_
    have releasable : Releasable ⟨(QnnInferencer.empty.init answers).object, false⟩ :=
      QnnInferencer.releasable_init complete QnnInferencer.releasable_empty fun _ => rfl
    exact (keeps_checkOutputs _).orElse (keeps_destroy (leaves_checkOutputs releasable).always)

end ArcFaceInfer

end Iq9Pipeline.MultiCam
