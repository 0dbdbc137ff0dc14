import Iq9Pipeline.Foundation.Machine
import Iq9Pipeline.MultiCam.PreprocessHandles
import Iq9Pipeline.MultiCam.QnnInferencer

/-!
The face element of a channel (`gstfaceinfer.cpp`) with the `FaceProcessor` that it holds, over
any order of the callbacks that the streaming framework makes. Every answer of the framework,
of the kernel and of OpenCL is free, and so are those of the neural network runtime where what it
says is complete.
-/

namespace Iq9Pipeline.MultiCam

open Foundation HandleCall

structure ProcessorHandles where
  gpu : PreprocessHandles
  scrfdQnn : QnnInferencer
  arcface : ArcFaceInfer
  arcfaceEnabled : Bool
  initialized : Bool

namespace ProcessorHandles

def empty : ProcessorHandles :=
  ⟨.empty, .empty, .empty, false, false⟩

def owned (processor : ProcessorHandles) : Multiset Resource :=
  processor.arcface.owned + (processor.scrfdQnn.owned + processor.gpu.owned)

structure InitAnswers where
  loader : Bool
  gpu : PreprocessHandles.InitAnswers
  scrfd : QnnAnswers
  arcfaceModel : Bool
  arcface : QnnAnswers

/-- The third part of `Init`: without the detector the preprocessor goes too. -/
def initScrfd (processor : ProcessorHandles) (answers : InitAnswers) :
    Staged ProcessorHandles Resource :=
  ((processor.scrfdQnn.init answers.scrfd).inside
    fun qnn => { processor with scrfdQnn := qnn }).orElse fun processor =>
      processor.gpu.destroy.inside fun gpu => { processor with gpu := gpu }

/-- The fourth part of `Init`: without embeddings faces are still found. -/
def initArcface (processor : ProcessorHandles) (answers : InitAnswers) :
    Staged ProcessorHandles Resource :=
  if answers.arcfaceModel then
    ((processor.arcface.init answers.arcface).inside fun arcface =>
      { processor with
        arcface := arcface
        arcfaceEnabled := (processor.arcface.init answers.arcface).ok
        initialized := true }).tolerate
  else Staged.check true { processor with arcfaceEnabled := false, initialized := true }

def init (processor : ProcessorHandles) (answers : InitAnswers) :
    Staged ProcessorHandles Resource :=
  if processor.initialized || !answers.loader then Staged.check false processor
  else
    ((processor.gpu.init answers.gpu).inside
      fun gpu => { processor with gpu := gpu }).andThen fun processor =>
    (processor.initScrfd answers).andThen fun processor =>
    processor.initArcface answers

def destroy (processor : ProcessorHandles) : Staged ProcessorHandles Resource :=
  if processor.initialized then
    ⟨⟨processor.gpu.destroy.object, processor.scrfdQnn.destroy.object,
        processor.arcface.destroy.object, false, false⟩,
      processor.arcface.destroy.calls ++
        (processor.scrfdQnn.destroy.calls ++ processor.gpu.destroy.calls), true⟩
  else Staged.check true processor

def destructor (processor : ProcessorHandles) : List SystemCall :=
  processor.destroy.calls ++ (processor.destroy.object.arcface.destroy.calls ++
    (processor.destroy.object.scrfdQnn.destroy.calls ++
      processor.destroy.object.gpu.destroy.calls))

namespace InitAnswers

def Complete (answers : InitAnswers) : Prop :=
  answers.scrfd.Complete ∧ answers.arcface.Complete

instance (answers : InitAnswers) : Decidable answers.Complete :=
  inferInstanceAs (Decidable (_ ∧ _))

end InitAnswers

structure Releasable (processor : ProcessorHandles) : Prop where
  arcface : processor.arcface.Releasable
  scrfdQnn : processor.scrfdQnn.Releasable

theorem releasable_empty : empty.Releasable :=
  ⟨QnnInferencer.releasable_empty, QnnInferencer.releasable_empty⟩

theorem clears_members {processor : ProcessorHandles} (releasable : processor.Releasable) :
    Transfers (processor.arcface.destroy.calls ++
      (processor.scrfdQnn.destroy.calls ++ processor.gpu.destroy.calls)) processor.owned 0 :=
  (ArcFaceInfer.clears_destroy releasable.arcface).clear
    ((QnnInferencer.clears_destroy releasable.scrfdQnn).clear
      (PreprocessHandles.clears_destroy processor.gpu))

theorem owned_gpu (processor : ProcessorHandles) (gpu : PreprocessHandles) :
    owned { processor with gpu := gpu } =
      gpu.owned + (processor.arcface.owned + processor.scrfdQnn.owned) := by
  simp only [owned]
  abel

theorem owned_scrfdQnn (processor : ProcessorHandles) (qnn : QnnInferencer) :
    owned { processor with scrfdQnn := qnn } =
      qnn.owned + (processor.arcface.owned + processor.gpu.owned) := by
  simp only [owned]
  abel

theorem owned_arcface (gpu : PreprocessHandles) (qnn : QnnInferencer) (enabled initialized : Bool)
    (arcface : ArcFaceInfer) : owned ⟨gpu, qnn, arcface, enabled, initialized⟩ =
      arcface.owned + (qnn.owned + gpu.owned) :=
  rfl

theorem keeps_initScrfd {processor : ProcessorHandles} {answers : InitAnswers}
    (complete : answers.Complete) (unset : processor.scrfdQnn = .empty) :
    (processor.initScrfd answers).Keeps owned processor.owned := by
  have started := (QnnInferencer.keeps_init complete.1 fun _ => unset).inside
    (owned_scrfdQnn processor)
  have destroyed (left : ProcessorHandles) :=
    (PreprocessHandles.keeps_destroy left.gpu).inside (owned_gpu left)
  exact started.orElse (destroyed _)

def Idle (processor : ProcessorHandles) : Prop :=
  processor.scrfdQnn = .empty ∧ processor.arcface = .empty

theorem Idle.releasable {processor : ProcessorHandles} (idle : processor.Idle) :
    processor.Releasable := by
  constructor
  · rw [idle.2]
    exact QnnInferencer.releasable_empty
  · rw [idle.1]
    exact QnnInferencer.releasable_empty

theorem leaves_initScrfd {processor : ProcessorHandles} {answers : InitAnswers}
    (complete : answers.Complete) (idle : processor.Idle) :
    (processor.initScrfd answers).Leaves
      (fun processor => processor.Releasable ∧ processor.arcface = .empty) Releasable := by
  have left := QnnInferencer.releasable_init complete.1 idle.releasable.scrfdQnn fun _ => idle.1
  have started : ((processor.scrfdQnn.init answers.scrfd).inside
      fun qnn => { processor with scrfdQnn := qnn }).Leaves
        (fun processor => processor.Releasable ∧ processor.arcface = .empty) Releasable := by
    rw [Staged.Leaves]
    split
    · exact ⟨⟨idle.releasable.arcface, left⟩, idle.2⟩
    · exact ⟨idle.releasable.arcface, left⟩
  exact started.orElse fun left kept => ⟨kept.arcface, kept.scrfdQnn⟩

theorem initScrfd_arcface {processor : ProcessorHandles} {answers : InitAnswers}
    (succeeded : (processor.initScrfd answers).ok = true) :
    (processor.initScrfd answers).object.arcface = processor.arcface := by
  rw [initScrfd, Staged.orElse_of_ok succeeded]
  rfl

theorem leaves_initArcface {processor : ProcessorHandles} {answers : InitAnswers}
    (complete : answers.Complete) (releasable : processor.Releasable)
    (unset : processor.arcface = .empty) :
    (processor.initArcface answers).Leaves Releasable Releasable := by
  rw [initArcface]
  split
  · refine Staged.Leaves.tolerate ?_
    have left : Releasable { processor with
        arcface := (processor.arcface.init answers.arcface).object
        arcfaceEnabled := (processor.arcface.init answers.arcface).ok
        initialized := true } :=
      ⟨ArcFaceInfer.releasable_init complete.2 releasable.arcface fun _ => unset,
        releasable.scrfdQnn⟩
    rwa [Staged.Leaves, ite_self]
  · exact Staged.leaves_check ⟨releasable.arcface, releasable.scrfdQnn⟩
      ⟨releasable.arcface, releasable.scrfdQnn⟩

theorem keeps_initArcface {processor : ProcessorHandles} {answers : InitAnswers}
    (complete : answers.Complete) (unset : processor.arcface = .empty) :
    (processor.initArcface answers).Keeps owned processor.owned := by
  obtain ⟨gpu, scrfdQnn, arcface, enabled, initialized⟩ := processor
  obtain rfl := unset
  rw [initArcface]
  split
  · have started := (ArcFaceInfer.keeps_init complete.2 fun _ => rfl).inside
      (owned_arcface gpu scrfdQnn (ArcFaceInfer.empty.init answers.arcface).ok true)
    exact started.tolerate
  · exact Transfers.nil _

theorem keeps_init {answers : InitAnswers} (complete : answers.Complete) :
    (empty.init answers).Keeps owned empty.owned := by
  rw [init]
  split
  · exact Staged.keeps_check false
  · have gpuStarted :=
      (PreprocessHandles.keeps_init answers.gpu fun _ => rfl).inside (owned_gpu empty)
    refine Staged.Keeps.andThen gpuStarted fun _ => ?_
    refine (keeps_initScrfd complete rfl).andThen fun succeeded => ?_
    exact keeps_initArcface complete (initScrfd_arcface succeeded)

theorem releasable_init {answers : InitAnswers} (complete : answers.Complete) :
    (empty.init answers).object.Releasable := by
  rw [init]
  split
  · exact releasable_empty
  · have gpuStarted : ((empty.gpu.init answers.gpu).inside
        fun gpu => { empty with gpu := gpu }).Leaves Idle Releasable := by
      have idle (gpu : PreprocessHandles) : Idle { empty with gpu := gpu } := ⟨rfl, rfl⟩
      rw [Staged.Leaves]
      split
      · exact idle _
      · exact (idle _).releasable
    refine (gpuStarted.andThen fun processor idle => ?_).always
    refine (leaves_initScrfd complete idle).andThen fun processor started => ?_
    exact leaves_initArcface complete started.1 started.2

theorem keeps_destroy {processor : ProcessorHandles} (releasable : processor.Releasable) :
    processor.destroy.Keeps owned processor.owned := by
  rw [destroy]
  split
  · have nothing : owned ⟨processor.gpu.destroy.object, processor.scrfdQnn.destroy.object,
        processor.arcface.destroy.object, false, false⟩ = 0 :=
      congrArg₂ (· + ·) (QnnInferencer.owned_destroy processor.arcface.qnn)
        (congrArg₂ (· + ·) (QnnInferencer.owned_destroy processor.scrfdQnn) rfl)
    rw [Staged.Keeps, nothing]
    exact clears_members releasable
  · exact Transfers.nil _

theorem releasable_destroy {processor : ProcessorHandles} (releasable : processor.Releasable) :
    processor.destroy.object.Releasable := by
  rw [destroy]
  split
  · exact ⟨QnnInferencer.releasable_destroy _, QnnInferencer.releasable_destroy _⟩
  · exact releasable

theorem clears_destructor {processor : ProcessorHandles} (releasable : processor.Releasable) :
    Transfers processor.destructor processor.owned 0 :=
  Transfers.append (keeps_destroy releasable) (clears_members (releasable_destroy releasable))

end ProcessorHandles

structure GstFaceInfer where
  configPath : Bool
  faceIntervalMs : UInt32
  lastFaceMs : UInt64
  processor : Option ProcessorHandles
  processorInitialized : Bool
  finalized : Bool
  calls : List SystemCall
  held : processor.isSome = processorInitialized
  gone : finalized = true → processorInitialized = false

structure SetCapsAnswers where
  videoInfo : Bool
  config : Bool
  init : ProcessorHandles.InitAnswers

structure FrameAnswers where
  nowMs : UInt64
  map : Option Nat
  fdBacked : Bool
  loader : Bool
  createBuffer : Option Nat

inductive ElementAction
  | setConfigPath (set : Bool)
  | setFaceInterval (ms : UInt32)
  | setCaps (answers : SetCapsAnswers)
  | transformIp (answers : FrameAnswers)
  | stop
  | finalize

namespace ElementAction

def Complete : ElementAction → Prop
  | .setCaps answers => answers.init.Complete
  | _ => True

instance (action : ElementAction) : Decidable action.Complete := by
  cases action with
  | setCaps answers => exact inferInstanceAs (Decidable answers.init.Complete)
  | _ => exact .isTrue trivial

end ElementAction

namespace GstFaceInfer

def owned (element : GstFaceInfer) : Multiset Resource :=
  element.processor.elim 0 ProcessorHandles.owned

/-- Whether the interval since the last examined frame is over, in unsigned arithmetic. -/
def due (element : GstFaceInfer) (nowMs : UInt64) : Bool :=
  element.faceIntervalMs = 0 || !(nowMs - element.lastFaceMs < element.faceIntervalMs.toUInt64)

def frameCalls (processor : ProcessorHandles) (answers : FrameAnswers) : List SystemCall :=
  match answers.map with
  | none => []
  | some frame =>
      if !answers.fdBacked then [.acquire (.videoFrame frame), .release (.videoFrame frame)]
      else
        match answers.loader && processor.gpu.ctx.isSome, answers.createBuffer with
        | true, some mem =>
            [.acquire (.videoFrame frame), .acquire (.memObject mem), .release (.memObject mem),
              .release (.videoFrame frame)]
        | _, _ => [.acquire (.videoFrame frame), .release (.videoFrame frame)]

def hold (element : GstFaceInfer) (processor : ProcessorHandles) (calls : List SystemCall)
    (live : element.finalized ≠ true) : GstFaceInfer :=
  { element with
    processor := some processor
    processorInitialized := true
    calls := element.calls ++ calls
    held := rfl
    gone := fun finalized => absurd finalized live }

def drop (element : GstFaceInfer) (calls : List SystemCall) : GstFaceInfer :=
  { element with
    processor := none
    processorInitialized := false
    calls := element.calls ++ calls
    held := rfl
    gone := fun _ => rfl }

def setCaps (element : GstFaceInfer) (answers : SetCapsAnswers)
    (live : element.finalized ≠ true) : GstFaceInfer :=
  if !answers.videoInfo || element.processorInitialized then element
  else if !element.configPath || !answers.config then element
  else
    match ProcessorHandles.empty.init answers.init with
    | ⟨processor, calls, true⟩ => element.hold processor calls live
    | ⟨processor, calls, false⟩ => element.drop (calls ++ processor.destructor)

def transformIp (element : GstFaceInfer) (answers : FrameAnswers) : GstFaceInfer :=
  if !element.due answers.nowMs then element
  else
    { element with
      lastFaceMs := if element.faceIntervalMs = 0 then element.lastFaceMs else answers.nowMs
      calls := element.calls ++
        element.processor.elim [] fun processor => frameCalls processor answers }

def stop (element : GstFaceInfer) : GstFaceInfer :=
  element.drop <| element.processor.elim [] fun processor =>
    processor.destroy.calls ++ processor.destroy.object.destructor

def finalize (element : GstFaceInfer) : GstFaceInfer :=
  { element.drop (element.processor.elim [] ProcessorHandles.destructor) with
    finalized := true
    gone := fun _ => rfl }

def step (element : GstFaceInfer) (action : ElementAction) : Option GstFaceInfer :=
  if live : element.finalized ≠ true then
    match action with
    | .setConfigPath set => some { element with configPath := set }
    | .setFaceInterval ms => some { element with faceIntervalMs := ms }
    | .setCaps answers => some (element.setCaps answers live)
    | .transformIp answers => some (element.transformIp answers)
    | .stop => some element.stop
    | .finalize => some element.finalize
  else none

def fresh : GstFaceInfer where
  configPath := false
  faceIntervalMs := 0
  lastFaceMs := 0
  processor := none
  processorInitialized := false
  finalized := false
  calls := []
  held := rfl
  gone := fun _ => rfl

def machine : Machine GstFaceInfer ElementAction where
  start element := element = fresh
  step := step

theorem transfers_frameCalls (processor : ProcessorHandles) (answers : FrameAnswers)
    (owned : Multiset Resource) : Transfers (frameCalls processor answers) owned owned := by
  have mapped (frame : Nat) : Transfers
      [.acquire (Resource.videoFrame frame), .release (.videoFrame frame)] owned owned :=
    (Transfers.acquire _ _).append (Transfers.release _ _)
  rw [frameCalls]
  split
  · exact Transfers.nil _
  · rename_i frame _
    split
    · exact mapped frame
    · split
      · rename_i mem _ _
        have imported : Transfers
            [.acquire (Resource.memObject mem), .release (.memObject mem)]
            (.videoFrame frame ::ₘ owned) (.videoFrame frame ::ₘ owned) :=
          (Transfers.acquire _ _).append (Transfers.release _ _)
        exact (Transfers.acquire _ _).append (imported.append (Transfers.release _ _))
      · exact mapped frame

variable {element next : GstFaceInfer}

theorem owned_of_uninitialized (element : GstFaceInfer)
    (uninitialized : element.processorInitialized = false) : element.owned = 0 := by
  have empty : element.processor = none := by
    rw [← Option.isNone_iff_eq_none, ← Option.not_isSome, element.held, uninitialized]
    rfl
  rw [owned, empty]
  rfl

def Releasable (element : GstFaceInfer) : Prop :=
  ∀ processor ∈ element.processor, processor.Releasable

theorem releasable_of_empty (empty : element.processor = none) : element.Releasable := by
  intro processor held
  rw [empty] at held
  cases held

theorem releasable_setCaps {answers : SetCapsAnswers} (complete : answers.init.Complete)
    (releasable : element.Releasable) (live : element.finalized ≠ true) :
    (element.setCaps answers live).Releasable := by
  rw [setCaps]
  split
  · exact releasable
  · split
    · exact releasable
    · have started := ProcessorHandles.releasable_init complete
      split <;> rename_i processor calls answered <;> rw [answered] at started
      · rintro _ ⟨⟩
        exact started
      · exact releasable_of_empty rfl

theorem accounts_setCaps {answers : SetCapsAnswers} (complete : answers.init.Complete)
    (live : element.finalized ≠ true) :
    Accounts calls owned element (element.setCaps answers live) := by
  rw [setCaps]
  split
  · exact accounts_silent rfl rfl
  · rename_i begun
    have nothing := owned_of_uninitialized element (by simp at begun; exact begun.2)
    split
    · exact accounts_silent rfl rfl
    · have started := ProcessorHandles.keeps_init complete
      have releasable := ProcessorHandles.releasable_init complete
      split <;> rename_i processor calls answered <;> rw [answered] at started releasable
      · refine ⟨calls, rfl, ?_⟩
        rw [nothing]
        exact started
      · refine ⟨calls ++ processor.destructor, rfl, ?_⟩
        rw [nothing]
        exact Transfers.append started (ProcessorHandles.clears_destructor releasable)

theorem accounts_drop {calls : List SystemCall} (clears : Transfers calls element.owned 0) :
    Accounts GstFaceInfer.calls owned element (element.drop calls) :=
  ⟨calls, rfl, clears⟩

theorem clears_stop (releasable : element.Releasable) :
    Transfers (element.processor.elim [] fun processor =>
      processor.destroy.calls ++ processor.destroy.object.destructor) element.owned 0 := by
  rw [Releasable] at releasable
  rw [owned]
  cases present : element.processor with
  | none => exact Transfers.nil 0
  | some processor =>
      have begun := releasable processor present
      exact Transfers.append (ProcessorHandles.keeps_destroy begun)
        (ProcessorHandles.clears_destructor (ProcessorHandles.releasable_destroy begun))

theorem clears_finalize (releasable : element.Releasable) :
    Transfers (element.processor.elim [] ProcessorHandles.destructor) element.owned 0 := by
  rw [owned]
  cases present : element.processor with
  | none => exact Transfers.nil 0
  | some processor => exact ProcessorHandles.clears_destructor (releasable processor present)

theorem releasable_step {action : ElementAction} (releasable : element.Releasable)
    (complete : action.Complete) (stepped : element.step action = some next) :
    next.Releasable := by
  rw [step] at stepped
  split at stepped
  · cases action with
    | setConfigPath set => exact Option.some.inj stepped ▸ releasable
    | setFaceInterval ms => exact Option.some.inj stepped ▸ releasable
    | setCaps answers => exact Option.some.inj stepped ▸ releasable_setCaps complete releasable _
    | transformIp answers =>
        obtain rfl := Option.some.inj stepped
        rw [transformIp]
        split
        · exact releasable
        · exact releasable
    | stop => exact Option.some.inj stepped ▸ releasable_of_empty rfl
    | finalize => exact Option.some.inj stepped ▸ releasable_of_empty rfl
  · cases stepped

theorem step_accounts {action : ElementAction} (releasable : element.Releasable)
    (complete : action.Complete) (stepped : element.step action = some next) :
    Accounts calls owned element next := by
  rw [step] at stepped
  split at stepped
  · cases action with
    | setConfigPath set => exact Option.some.inj stepped ▸ accounts_silent rfl rfl
    | setFaceInterval ms => exact Option.some.inj stepped ▸ accounts_silent rfl rfl
    | setCaps answers => exact Option.some.inj stepped ▸ accounts_setCaps complete _
    | transformIp answers =>
        obtain rfl := Option.some.inj stepped
        rw [transformIp]
        split
        · exact accounts_silent rfl rfl
        · refine ⟨_, rfl, ?_⟩
          change Transfers _ element.owned element.owned
          cases element.processor with
          | none => exact Transfers.nil _
          | some processor => exact transfers_frameCalls processor answers _
    | stop => exact Option.some.inj stepped ▸ accounts_drop (clears_stop releasable)
    | finalize => exact Option.some.inj stepped ▸ accounts_drop (clears_finalize releasable)
  · cases stepped

theorem reachable_transfers
    (reachable : machine.ReachableUnder (fun _ action => action.Complete) element) :
    Transfers element.calls 0 element.owned := by
  apply Machine.ReachableUnder.transfers Releasable _ _ reachable
  · rintro _ rfl
    exact ⟨releasable_of_empty rfl, rfl, rfl⟩
  · intro state action next releasable complete stepped
    exact ⟨releasable_step releasable complete stepped,
      step_accounts releasable complete stepped⟩

theorem videoFrame_not_owned (element : GstFaceInfer) (frame : Nat) :
    .videoFrame frame ∉ element.owned := by
  rw [owned]
  cases element.processor with
  | none => exact Multiset.notMem_zero _
  | some processor =>
      obtain ⟨gpu, ⟨scrfd, _⟩, ⟨⟨arcface, _⟩, _⟩, _, _⟩ := processor
      cases scrfd <;> cases arcface <;>
        simp [ProcessorHandles.owned, ArcFaceInfer.owned, QnnInferencer.owned, QnnImpl.owned,
          QnnGraphs.owned, QnnBackend.owned, PreprocessHandles.owned, DmaBuffer.owned,
          Staged.mem_holding]

/-- In every run in which the runtime answers completely, each release is of something live, what
is live is what the processor holds, nothing outlasts the processor, and no frame stays mapped. -/
theorem releasesInEveryRun
    (reachable : machine.ReachableUnder (fun _ action => action.Complete) element) :
    Proper 0 element.calls ∧ liveAfter 0 element.calls = element.owned ∧
      (element.processorInitialized = false → liveAfter 0 element.calls = 0) ∧
      ∀ frame, .videoFrame frame ∉ liveAfter 0 element.calls := by
  obtain ⟨proper, left⟩ := (reachable_transfers reachable).whole
  rw [left]
  exact ⟨proper, rfl, owned_of_uninitialized element, videoFrame_not_owned element⟩

def openClAnswers (lastImport : Option Nat) : PreprocessHandles.InitAnswers where
  loader := true
  platform := true
  device := true
  context := some 1
  queue := some 2
  scrfdProgram := ⟨true, some 3, true, some 4⟩
  arcfaceProgram := ⟨true, some 5, true, some 6⟩
  scrfdOut := ⟨⟨some 7, some 8, some 9⟩, some 10⟩
  arcfaceOut := ⟨⟨some 11, some 12, some 13⟩, lastImport⟩

def qnnAnswers (outputTensors : List (List UInt32)) : QnnAnswers where
  impl := 20
  dlopen := some 21
  symbol := true
  providers := true
  frees := fun _ => true
  logger := some 22
  backend := some 23
  profiler := some 24
  devicePlatform := some 25
  deviceListed := true
  device := some 26
  dlopenSystem := some 27
  systemSymbol := true
  systemProviders := true
  modelRead := true
  systemFunctions := true
  sysctx := some 28
  binaryInfo := some ⟨true, [true], 1, outputTensors⟩
  graphInfos := 29
  graphs := 30
  behind := none
  contextFunction := true
  context := some 31
  graphRetrieve := [true]

/-- The preprocessor fails in its last stage; then all succeeds but the embeddings, whose
network has the wrong output. -/
theorem releasesInEveryRun_retried : ∃ element : GstFaceInfer, element.calls.length = 106 ∧
    Proper 0 element.calls ∧ liveAfter 0 element.calls = element.owned ∧
      (element.processorInitialized = false → liveAfter 0 element.calls = 0) ∧
      ∀ frame, .videoFrame frame ∉ liveAfter 0 element.calls := by
  let detector := qnnAnswers [[1, 100]]
  let actions : List ElementAction := [.setConfigPath true,
    .setCaps ⟨true, true, ⟨true, openClAnswers none, detector, true, qnnAnswers [[1, 512]]⟩⟩,
    .setCaps ⟨true, true, ⟨true, openClAnswers (some 14), detector, true, qnnAnswers [[511]]⟩⟩,
    .transformIp ⟨5, some 40, true, true, some 41⟩, .stop]
  have reached : (machine.run (fun _ action => action.Complete) fresh actions).map
      (fun element => element.calls.length) = some 106 := by decide +kernel
  obtain ⟨element, ran, counted⟩ := Option.map_eq_some_iff.mp reached
  exact ⟨element, counted, releasesInEveryRun (Machine.ReachableUnder.run (.start rfl) ran)⟩

end GstFaceInfer

end Iq9Pipeline.MultiCam
