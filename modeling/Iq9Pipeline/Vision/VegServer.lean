import Iq9Pipeline.Foundation.LittleEndian

/-!
The server of the vision encoder (`veg_server_combined.cpp`). A client sends the path of an
image behind its length, and gets the embedding of the image or an error.
-/

namespace Iq9Pipeline.Vision.VegServer

open Foundation

inductive FileKind
  | regular
  | other

inductive Thrown
  | exception
  | unknown

structure PreprocessedData where
  seqLen : Int
  pixelValues : List UInt32
  imageGridThw : List Int

structure VEGServerCombined (Tensors : Type) where
  targetSize : Int
  graphsCount : Nat
  /-- Whether so many bytes can be had beside those of the connection that are in use. -/
  allocates : Nat → Nat → Bool
  stat : List UInt8 → Option FileKind
  preprocessImage : List UInt8 → Int → Except Thrown PreprocessedData
  prepareInputTensors : PreprocessedData → Option Tensors
  prepareOutputTensors : Option Tensors
  graphExecute : Tensors → Tensors → Option Tensors
  extractEmbeddings : Tensors → Option (List UInt32)

/-- What a call of `handleClient` leaves behind: the size of the path buffer, the bytes that
were put from its start on, and all that was sent. -/
structure Session where
  allocated : Nat
  received : List UInt8
  sent : List UInt8
  thrown : Bool

def sendError : List UInt8 :=
  word32 1 ++ word32 0

def sendEmbeddings (embeddings : List UInt32) : List UInt8 :=
  let numFloats := UInt32.ofNat embeddings.length
  word32 0 ++ word32 numFloats ++ (embeddings.take numFloats.toNat).flatMap word32

def cString (path : List UInt8) : List UInt8 :=
  path.takeWhile fun byte => byte ≠ 0

namespace VEGServerCombined

variable {Tensors : Type}

def processImage (server : VEGServerCombined Tensors) (imagePath : List UInt8) :
    Option (List UInt32) :=
  match server.preprocessImage imagePath server.targetSize with
  | .error .exception => none
  | .error .unknown => none
  | .ok preprocessed =>
      if preprocessed.seqLen = 0 ∨ preprocessed.pixelValues = [] then none
      else if preprocessed.imageGridThw.length < 3 then none
      else if server.graphsCount = 0 then none
      else
        (server.prepareInputTensors preprocessed).bind fun inputs =>
          server.prepareOutputTensors.bind fun outputs =>
            (server.graphExecute inputs outputs).bind server.extractEmbeddings

def respond (server : VEGServerCombined Tensors) (imagePath : List UInt8) : List UInt8 :=
  match server.stat (cString imagePath) with
  | none => sendError
  | some .other => sendError
  | some .regular =>
      match server.processImage imagePath with
      | none => sendError
      | some embeddings => sendEmbeddings embeddings

/-- `recv` waits for all that it is asked for, or for the end of the stream. -/
def handleClient (server : VEGServerCombined Tensors) (stream : List UInt8) : Session :=
  let header := stream.take 4
  if header.length ≠ 4 then ⟨0, [], sendError, false⟩
  else
    let pathLen := word32At header 0
    let size := (pathLen + 1).toNat
    -- A vector without elements asks for no memory, and no handler is around the others.
    if size ≠ 0 ∧ server.allocates 0 size = false then ⟨0, [], [], true⟩
    else
      let received := (stream.drop 4).take pathLen.toNat
      if received.length ≠ pathLen.toNat then ⟨size, received, sendError, false⟩
      -- `imagePath` is a copy.
      else if server.allocates size (pathLen.toNat + 1) = false then ⟨size, received, [], true⟩
      else ⟨size, received, server.respond received, false⟩

end VEGServerCombined

def IsResponse (sent : List UInt8) : Prop :=
  sent = word32 1 ++ word32 0 ∨
    ∃ (count : UInt32) (floats : List UInt32), floats.length = count.toNat ∧
      sent = word32 0 ++ word32 count ++ floats.flatMap word32

structure Session.Safe (session : Session) : Prop where
  inside : ∀ offset < session.received.length, offset < session.allocated
  response : IsResponse session.sent

theorem isResponse_sendError : IsResponse sendError :=
  Or.inl rfl

theorem isResponse_sendEmbeddings (embeddings : List UInt32) :
    IsResponse (sendEmbeddings embeddings) := by
  have short : (UInt32.ofNat embeddings.length).toNat ≤ embeddings.length := by
    rw [UInt32.toNat_ofNat']
    exact Nat.mod_le _ _
  refine Or.inr ⟨UInt32.ofNat embeddings.length, embeddings.take _, ?_, rfl⟩
  rw [List.length_take, Nat.min_eq_left short]

theorem not_isResponse_nil : ¬IsResponse [] := by
  rintro (error | ⟨count, floats, _, sent⟩)
  · exact absurd (congrArg List.length error) (by simp)
  · simp [word32, leBytes] at sent

namespace VEGServerCombined

variable {Tensors : Type} (server : VEGServerCombined Tensors)

theorem isResponse_respond (imagePath : List UInt8) : IsResponse (server.respond imagePath) := by
  rw [respond]
  split
  · exact isResponse_sendError
  · exact isResponse_sendError
  · split
    · exact isResponse_sendError
    · exact isResponse_sendEmbeddings _

def pathLen (stream : List UInt8) : UInt32 :=
  word32At (stream.take 4) 0

theorem handleClient_unannounced {stream : List UInt8} (short : stream.length < 4) :
    server.handleClient stream = ⟨0, [], sendError, false⟩ := by
  have header : (stream.take 4).length ≠ 4 := by
    rw [List.length_take]
    omega
  simp only [handleClient, if_pos header]

theorem handleClient_refused {stream : List UInt8} (announced : 4 ≤ stream.length)
    (sized : (pathLen stream + 1).toNat ≠ 0)
    (refused : server.allocates 0 (pathLen stream + 1).toNat = false) :
    server.handleClient stream = ⟨0, [], [], true⟩ := by
  have header : (stream.take 4).length = 4 := List.length_take_of_le announced
  rw [pathLen] at sized refused
  simp only [handleClient, header, ne_eq, not_true_eq_false, if_false, sized, refused,
    not_false_eq_true, and_self, if_true]

def CopyRefused (stream : List UInt8) : Prop :=
  (pathLen stream).toNat + 4 ≤ stream.length ∧
    server.allocates (pathLen stream + 1).toNat ((pathLen stream).toNat + 1) = false

/-- Behind the allocation the buffer holds what came, and there is a response but where the
path cannot be copied. -/
theorem handleClient_allocated {stream : List UInt8} (announced : 4 ≤ stream.length)
    (granted : (pathLen stream + 1).toNat ≠ 0 →
      server.allocates 0 (pathLen stream + 1).toNat = true) :
    (server.handleClient stream).allocated = (pathLen stream + 1).toNat ∧
      (server.handleClient stream).received =
        (stream.drop 4).take (pathLen stream).toNat ∧
      (IsResponse (server.handleClient stream).sent ↔ ¬server.CopyRefused stream) := by
  have header : (stream.take 4).length = 4 := List.length_take_of_le announced
  have allocated : ¬((pathLen stream + 1).toNat ≠ 0 ∧
      server.allocates 0 (pathLen stream + 1).toNat = false) := by
    rintro ⟨sized, refused⟩
    rw [granted sized] at refused
    exact Bool.noConfusion refused
  rw [CopyRefused]
  rw [pathLen] at allocated ⊢
  simp only [handleClient, header, ne_eq, not_true_eq_false, if_false, if_neg allocated]
  split
  · rename_i cut
    refine ⟨rfl, rfl, iff_of_true isResponse_sendError ?_⟩
    rintro ⟨whole, _⟩
    apply cut
    rw [List.length_take, List.length_drop]
    omega
  · rename_i whole
    have long : (word32At (stream.take 4) 0).toNat + 4 ≤ stream.length := by
      rw [List.length_take, List.length_drop] at whole
      omega
    split
    · rename_i refused
      exact ⟨rfl, rfl, iff_of_false not_isResponse_nil (not_not.mpr ⟨long, refused⟩)⟩
    · rename_i copied
      exact ⟨rfl, rfl, iff_of_true (server.isResponse_respond _) fun refused => copied refused.2⟩

theorem length_add_one (length : UInt32) :
    (length + 1).toNat = if length.toNat = 2 ^ 32 - 1 then 0 else length.toNat + 1 := by
  have bound := length.toNat_lt
  rw [UInt32.toNat_add]
  split
  · rename_i largest
    rw [largest]
    rfl
  · rename_i smaller
    exact Nat.mod_eq_of_lt (by simp only [UInt32.toNat_one]; omega)

/-- The length does not arrive, or it is below `2 ^ 32 - 1` and the host has the memory for
the path and the copy, or it is `2 ^ 32 - 1` and nothing follows. -/
def Fits (stream : List UInt8) : Prop :=
  stream.length < 4 ∨
    if (pathLen stream).toNat = 2 ^ 32 - 1 then stream.length = 4
    else server.allocates 0 ((pathLen stream).toNat + 1) = true ∧ ¬server.CopyRefused stream

theorem safe_iff_of_largest {stream : List UInt8} (announced : 4 ≤ stream.length)
    (largest : (pathLen stream).toNat = 2 ^ 32 - 1) :
    (server.handleClient stream).Safe ↔ stream.length = 4 := by
  have size : (pathLen stream + 1).toNat = 0 := by rw [length_add_one, if_pos largest]
  obtain ⟨allocated, received, responds⟩ :=
    server.handleClient_allocated announced fun sized => absurd size sized
  rw [size] at allocated
  constructor
  · intro safe
    by_contra more
    have inside := safe.inside 0 (by
      rw [received, List.length_take, List.length_drop]
      omega)
    omega
  · intro whole
    constructor
    · intro offset before
      rw [received, List.length_take, List.length_drop] at before
      omega
    · apply responds.mpr
      rintro ⟨arrived, _⟩
      omega

theorem safe_iff_of_smaller {stream : List UInt8} (announced : 4 ≤ stream.length)
    (smaller : (pathLen stream).toNat ≠ 2 ^ 32 - 1) :
    (server.handleClient stream).Safe ↔
      server.allocates 0 ((pathLen stream).toNat + 1) = true ∧ ¬server.CopyRefused stream := by
  have size : (pathLen stream + 1).toNat = (pathLen stream).toNat + 1 := by
    rw [length_add_one, if_neg smaller]
  cases granted : server.allocates 0 ((pathLen stream).toNat + 1) with
  | false =>
      rw [server.handleClient_refused announced (by omega) (by rw [size, granted])]
      apply iff_of_false
      · intro safe
        exact not_isResponse_nil safe.response
      · rintro ⟨⟨⟩, _⟩
  | true =>
      obtain ⟨allocated, received, responds⟩ :=
        server.handleClient_allocated announced fun _ => by rw [size, granted]
      rw [and_iff_right rfl, ← responds]
      constructor
      · exact Session.Safe.response
      · intro response
        refine ⟨?_, response⟩
        intro offset before
        rw [received, List.length_take] at before
        omega

theorem handleClient_safe_iff (stream : List UInt8) :
    (server.handleClient stream).Safe ↔ server.Fits stream := by
  rcases Nat.lt_or_ge stream.length 4 with short | announced
  · rw [server.handleClient_unannounced short]
    exact iff_of_true ⟨nofun, isResponse_sendError⟩ (Or.inl short)
  · rw [Fits, or_iff_right (Nat.not_lt.mpr announced)]
    split
    · rename_i largest
      exact server.safe_iff_of_largest announced largest
    · rename_i smaller
      exact server.safe_iff_of_smaller announced smaller

def fileless : VEGServerCombined Unit where
  targetSize := 448
  graphsCount := 1
  allocates := fun _ _ => true
  stat := fun _ => none
  preprocessImage := fun _ _ => .error .exception
  prepareInputTensors := fun _ => some ()
  prepareOutputTensors := some ()
  graphExecute := fun _ _ => some ()
  extractEmbeddings := fun _ => none

/-- The largest length and a single byte behind it. -/
theorem largestLength :
    ¬∀ stream, (fileless.handleClient stream).Safe := by
  intro safe
  have inside := (safe [0xff, 0xff, 0xff, 0xff, 0x41]).inside 0 (by decide +kernel)
  exact absurd inside (by decide +kernel)

end VEGServerCombined

end Iq9Pipeline.Vision.VegServer
