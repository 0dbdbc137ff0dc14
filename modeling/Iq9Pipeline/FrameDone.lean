import Iq9Pipeline.Json

/-!
The `frame_done` message: the document that the rule process publishes (`main.cpp`)
and what `FrameCacheService::OnFrameDonePayload` reads out of it
(`frame_cache_service.cpp`), the slots it passes to `ReleaseSlotDirect` in order and
how it ends.
-/

namespace Iq9Pipeline

def RuleProcess.frameDoneMessage (entries : List (UInt32 × Int32)) : Json :=
  .object [
    ("release_entries", .array (entries.map fun entry => .object [
      ("slot_index", .numberUnsigned entry.1.toUInt64),
      ("source_id", .numberInteger entry.2.toInt64)])),
    ("type", .string "frame_done")]

namespace FrameCache

/-- The program has no meaning from an undefined cast on. -/
inductive Ending
  | returned
  | thrown (exception : JsonException)
  | undefined
deriving DecidableEq

def castUndefined (entry : Json) : Bool :=
  match entry.find "slot_index" with
  | some (.numberFloat double) => !decide double.FitsUInt32
  | _ => false

def releaseEntries : List Json → List UInt32 × Ending
  | [] => ([], .returned)
  | entry :: entries =>
      if entry.isObject then
        if castUndefined entry then ([], .undefined)
        else match entry.value Json.getUInt32 "slot_index" 0 with
        | .error exception => ([], .thrown exception)
        | .ok slotIndex =>
            let rest := releaseEntries entries
            (slotIndex :: rest.1, rest.2)
      else
        releaseEntries entries

/-- The handler on the parsed payload, `none` when the payload is no JSON. -/
def onFrameDonePayload (parsed : Option Json) : List UInt32 × Ending :=
  match parsed with
  | none => ([], .returned)
  | some json =>
      match json.value Json.getString "type" "" with
      | .error exception => ([], .thrown exception)
      | .ok type =>
          if type ≠ "frame_done" then
            ([], .returned)
          else
            match json.find "release_entries" with
            | some (.array entries) => releaseEntries entries
            | _ => ([], .returned)

/-- The frame cache reads back the slots that the rule process named. -/
theorem onFrameDonePayload_frameDoneMessage (entries : List (UInt32 × Int32)) :
    onFrameDonePayload (some (RuleProcess.frameDoneMessage entries)) =
      (entries.map Prod.fst, .returned) := by
  have read (named : List (UInt32 × Int32)) :
      releaseEntries (named.map fun entry => .object [
        ("slot_index", .numberUnsigned entry.1.toUInt64),
        ("source_id", .numberInteger entry.2.toInt64)]) = (named.map Prod.fst, .returned) := by
    induction named with
    | nil => rfl
    | cons entry named ih =>
        simp [releaseEntries, ih, castUndefined, Json.isObject, Json.value, Json.find,
          Json.getUInt32, Json.getNumber]
  exact read entries

end FrameCache

end Iq9Pipeline
