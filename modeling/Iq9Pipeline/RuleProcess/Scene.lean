import Iq9Pipeline.FrameDone
import Iq9Pipeline.RuleProcess.EventAdapter
import Mathlib.Data.List.Basic

/-!
The rule process on one scene update (`main.cpp`): the scene is cut out of its
envelope and adapted, every event goes through the rule engine, the events with
an alert are relayed to the consumer, and a `frame_done` message releases the
slots of the others.
-/

namespace Iq9Pipeline.RuleProcess

def ascii (text : String) : List UInt8 :=
  text.toList.map fun character => UInt8.ofNat character.toNat

def sceneHead : List UInt8 :=
  ascii "\x7b\"type\":\"scene_update\""

def closingBrace (depth : Int) : List UInt8 → Option Nat
  | [] => none
  | byte :: bytes =>
      if byte = 0x7b then
        (closingBrace (depth + 1) bytes).map Nat.succ
      else if byte = 0x7d then
        if depth - 1 = 0 then some 1 else (closingBrace (depth - 1) bytes).map Nat.succ
      else
        (closingBrace depth bytes).map Nat.succ

/-- The scene inside the envelope, or the whole payload where none is found. -/
def sceneText (payload : List UInt8) : List UInt8 :=
  match payload.tails.find? fun text => sceneHead.isPrefixOf text with
  | none => payload
  | some text =>
      match closingBrace 0 text with
      | none => payload
      | some length => text.take length

def selectAlertForVqaMeta (alerts : List Alert) : Option Alert :=
  alerts.minOn? Alert.priority

def relayPacket (event : EventMeta) : IQ9TaskPacket where
  magic := iq9TaskMagic
  slotIndex := event.slotIndex
  width := event.width
  height := event.height
  channels := event.channels
  dataType := PixelFormat.rgb24.code
  timestampNs := event.timestampNs

def relayMetadata (chosen : Alert) (event : EventMeta) : Json :=
  .object [
    ("detections", .array (event.detections.map fun detection => .object [
      ("class", .string detection.className),
      ("confidence", .numberFloat (.ofFloat detection.confidence.toFloat)),
      ("track_id", .numberInteger detection.trackId.toInt64)])),
    ("rule", .string chosen.ruleName),
    ("source_id", .numberInteger event.slotIndex.toInt32.toInt64)]

structure RelayOutcome where
  mainReady : Bool
  connect : Option Int
  sendLength : Bool
  sendMetadata : Bool
  sendPacket : Bool

def relayEvent (relayFd : Int) (outcome : RelayOutcome) : Int × Bool :=
  let connected :=
    if 0 ≤ relayFd then some relayFd
    else if outcome.mainReady then outcome.connect
    else none
  match connected with
  | none => (relayFd, false)
  | some fd =>
      if outcome.sendLength && outcome.sendMetadata && outcome.sendPacket then (fd, true)
      else (-1, false)

structure SceneRun (Engine : Type) where
  engine : Engine
  relayFd : Int
  vqaSources : List Int32
  relayed : List (Option Alert)

variable {Engine : Type}

def relayScene (processEvent : Engine → EventMeta → List Alert × Engine) (engine : Engine)
    (relayFd : Int) (outcomes : Nat → RelayOutcome) : List EventMeta → SceneRun Engine
  | [] => { engine := engine, relayFd := relayFd, vqaSources := [], relayed := [] }
  | event :: events =>
      let processed := processEvent engine event
      let later := fun index => outcomes (index + 1)
      match selectAlertForVqaMeta processed.1 with
      | none =>
          let rest := relayScene processEvent processed.2 relayFd later events
          { rest with relayed := none :: rest.relayed }
      | some chosen =>
          let sent := relayEvent relayFd (outcomes 0)
          let rest := relayScene processEvent processed.2 sent.1 later events
          if sent.2 then
            { rest with
              vqaSources := event.sourceIdNum :: rest.vqaSources
              relayed := some chosen :: rest.relayed }
          else
            { rest with relayed := none :: rest.relayed }

def sceneEvents (parse : List UInt8 → Option Json) (payload : List UInt8) :
    Except JsonException (Option (List EventMeta)) := do
  let sceneJson := sceneText payload
  match parse sceneJson with
  | none => return none
  | some root =>
      if (← root.value Json.getString "type" "") ≠ "scene_update" then
        return none
      let events ← adaptSceneUpdate parse sceneJson
      return if events.isEmpty then none else some events

/-- `processScenePayload`, `none` where it returns false. -/
def processScenePayload (parse : List UInt8 → Option Json)
    (processEvent : Engine → EventMeta → List Alert × Engine) (engine : Engine) (relayFd : Int)
    (outcomes : Nat → RelayOutcome) (payload : List UInt8) :
    Except JsonException (Option (List EventMeta × SceneRun Engine)) :=
  (sceneEvents parse payload).map fun accepted => accepted.map fun events =>
    (events, relayScene processEvent engine relayFd outcomes events)

def frameDone (events : List EventMeta) (vqaSources : List Int32) : Json :=
  frameDoneMessage ((events.filter fun event => event.sourceIdNum ∉ vqaSources).map fun event =>
    (event.slotIndex, event.sourceIdNum))

def raised (processEvent : Engine → EventMeta → List Alert × Engine) (engine : Engine) :
    List EventMeta → List Bool
  | [] => []
  | event :: events =>
      let processed := processEvent engine event
      (!processed.1.isEmpty) :: raised processEvent processed.2 events

theorem selectAlertForVqaMeta_eq_none {alerts : List Alert} :
    selectAlertForVqaMeta alerts = none ↔ alerts = [] := by
  rw [selectAlertForVqaMeta, ← Option.not_isSome_iff_eq_none, List.isSome_minOn?_iff, not_not]

@[simp] theorem relayScene_relayed_length
    (processEvent : Engine → EventMeta → List Alert × Engine) (engine : Engine) (relayFd : Int)
    (outcomes : Nat → RelayOutcome) (events : List EventMeta) :
    (relayScene processEvent engine relayFd outcomes events).relayed.length = events.length := by
  induction events generalizing engine relayFd outcomes with
  | nil => rfl
  | cons event events ih =>
      simp only [relayScene]
      split
      · simp [ih]
      · split <;> simp [ih]

theorem mem_vqaSources {processEvent : Engine → EventMeta → List Alert × Engine}
    {engine : Engine} {relayFd : Int} {outcomes : Nat → RelayOutcome} {events : List EventMeta}
    {source : Int32} :
    source ∈ (relayScene processEvent engine relayFd outcomes events).vqaSources ↔
      ∃ (index : Nat) (event : EventMeta) (alert : Alert), events[index]? = some event ∧
        (relayScene processEvent engine relayFd outcomes events).relayed[index]? =
          some (some alert) ∧ event.sourceIdNum = source := by
  induction events generalizing engine relayFd outcomes with
  | nil => simp [relayScene]
  | cons event events ih =>
      rw [← Nat.or_exists_add_one]
      simp only [relayScene]
      split
      · simp [ih]
      · split
        · simp [ih, eq_comm]
        · simp [ih]

theorem raised_of_relayed {processEvent : Engine → EventMeta → List Alert × Engine}
    {engine : Engine} {relayFd : Int} {outcomes : Nat → RelayOutcome} {events : List EventMeta}
    {index : Nat} {alert : Alert}
    (sent : (relayScene processEvent engine relayFd outcomes events).relayed[index]? =
      some (some alert)) : (raised processEvent engine events)[index]? = some true := by
  induction events generalizing engine relayFd outcomes index with
  | nil => simp [relayScene] at sent
  | cons event events ih =>
      simp only [relayScene] at sent
      split at sent
      · cases index with
        | zero => simp at sent
        | succ index => exact ih sent
      · rename_i chosen selected
        have alerts : (processEvent engine event).1 ≠ [] := by
          intro empty
          simp [selectAlertForVqaMeta_eq_none.mpr empty] at selected
        cases index with
        | zero => simpa [raised] using alerts
        | succ index => split at sent <;> exact ih sent

def onlyWanted (wanted : Nat → Bool) (index : Nat) : RelayOutcome where
  mainReady := true
  connect := some 3
  sendLength := wanted index
  sendMetadata := true
  sendPacket := true

theorem relayEvent_onlyWanted (relayFd : Int) (wanted : Nat → Bool) (index : Nat) :
    (relayEvent relayFd (onlyWanted wanted index)).2 = wanted index := by
  simp only [relayEvent, onlyWanted]
  split
  · rename_i unconnected
    split at unconnected <;> simp at unconnected
  · by_cases taken : wanted index = true
    · simp [taken]
    · simp [taken]

theorem relayed_onlyWanted (processEvent : Engine → EventMeta → List Alert × Engine)
    (engine : Engine) (relayFd : Int) (wanted : Nat → Bool) (events : List EventMeta)
    (index : Nat) :
    (relayScene processEvent engine relayFd (onlyWanted wanted) events).relayed[index]?.map
        Option.isSome =
      (raised processEvent engine events)[index]?.map fun alerts => alerts && wanted index := by
  induction events generalizing engine relayFd wanted index with
  | nil => simp [relayScene, raised]
  | cons event events ih =>
      have later : (fun index => onlyWanted wanted (index + 1)) =
          onlyWanted fun index => wanted (index + 1) := rfl
      simp only [relayScene, raised, later, relayEvent_onlyWanted]
      split
      · rename_i unselected
        have empty := selectAlertForVqaMeta_eq_none.mp unselected
        cases index with
        | zero => simp [empty]
        | succ index => simpa using ih _ _ _ index
      · rename_i chosen selected
        have alerts : (processEvent engine event).1 ≠ [] := by
          intro empty
          simp [selectAlertForVqaMeta_eq_none.mpr empty] at selected
        cases index with
        | zero => cases take : wanted 0 <;> simp [alerts]
        | succ index => split <;> simpa using ih _ _ _ index

end Iq9Pipeline.RuleProcess
