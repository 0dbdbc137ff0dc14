import Iq9Pipeline.Foundation.KeyedTable
import Iq9Pipeline.RuleProcess.LeftItemSteps
import Iq9Pipeline.RuleProcess.RuleEngine
import Std.Data.String.ToInt

/-!
What an alert is about, and the dedup key it goes by. Within one rule the key tells
incidents apart, whatever the cameras and the users are called: its last fields are
numbers, which hold no separator.
-/

namespace Iq9Pipeline.RuleProcess

theorem lastField_inj {front back front' back' : String} (free : '_' ∉ back.toList)
    (free' : '_' ∉ back'.toList) (same : front ++ "_" ++ back = front' ++ "_" ++ back') :
    front = front' ∧ back = back' := by
  have lists := congrArg String.toList same
  simp only [String.toList_append, List.append_assoc] at lists
  have parts := Foundation.KeyedTable.append_separator_inj free free' lists
  exact ⟨String.toList_inj.mp parts.1, String.toList_inj.mp parts.2⟩

theorem letter_notMem_toString {letter : Char} (noDigit : letter.isDigit = false)
    (noSign : letter ≠ '-') (value : Int) : letter ∉ (toString value).toList := by
  have digits : ∀ value : Nat, letter ∉ Nat.toDigits 10 value := by
    intro value member
    have digit := Nat.isDigit_of_mem_toDigits (by decide) (by decide) member
    simp [noDigit] at digit
  rw [Int.toString_eq_repr]
  cases value with
  | ofNat value => simpa [Int.repr] using digits value
  | negSucc value => simpa [Int.repr, noSign] using digits (value + 1)

theorem separator_notMem_toString (value : Int) : '_' ∉ (toString value).toList :=
  letter_notMem_toString rfl (by decide) value

theorem toString_toInt_inj {first second : Int32}
    (same : toString first.toInt = toString second.toInt) : first = second := by
  rw [Int.toString_eq_repr, Int.toString_eq_repr] at same
  exact Int32.toInt_inj.mp (Int.repr_inj.mp same)

inductive Incident
  | collision (source : String) (first second : Int32)
  | item (source : String) (trackId : Int32)
  | mergedBag (source : String)
  | face (user : String)
deriving DecidableEq

namespace Incident

def dedupKey (name : String) : Incident → String
  | .collision source first second =>
      source ++ "_" ++ name ++ "_" ++ toString first.toInt ++ "_" ++ toString second.toInt
  | .item source trackId => source ++ "_" ++ name ++ "_" ++ toString trackId.toInt
  | .mergedBag source => source ++ "_" ++ name ++ "_merged_bag"
  | .face user => name ++ "_" ++ user

theorem item_dedupKey_ne_mergedBag (name source source' : String) (trackId : Int32) :
    (item source trackId).dedupKey name ≠ (mergedBag source').dedupKey name := by
  intro same
  have split : (mergedBag source').dedupKey name =
      source' ++ "_" ++ name ++ "_merged" ++ "_" ++ "bag" := by
    simp [dedupKey, String.append_assoc]
  rw [split] at same
  have fields := lastField_inj (separator_notMem_toString _) (by decide) same
  have noLetter : 'b' ∉ (toString trackId.toInt).toList :=
    letter_notMem_toString rfl (by decide) _
  rw [fields.2] at noLetter
  exact noLetter (by decide)

def ofItem (source : String) (trackId : Int32) : Incident :=
  if trackId = unifiedBagTrackId then .mergedBag source else .item source trackId

end Incident

theorem LeftItemRule.itemAlert_dedupKey {Number : Type} (rule : LeftItemRule Number)
    (event : RuleEvent Number) (trackId : Int32) :
    (rule.itemAlert event trackId).dedupKey =
      (Incident.ofItem event.sourceId trackId).dedupKey rule.name := by
  rw [itemAlert, Incident.ofItem]
  split <;> simp [RuleConfig.buildAlert, Incident.dedupKey]

namespace RuleInstance

variable {Number : Type}

inductive Concerns : RuleInstance Number → Incident → Prop
  | collision (rule : DoorCollisionRule Number) (source : String) (first second : Int32) :
      Concerns (.doorCollision rule) (.collision source first second)
  | item (rule : LeftItemRule Number) (state : LeftItemState Number) (source : String)
      (trackId : Int32) : Concerns (.leftItem rule state) (.item source trackId)
  | mergedBag (rule : LeftItemRule Number) (state : LeftItemState Number) (source : String) :
      Concerns (.leftItem rule state) (.mergedBag source)
  | face (rule : OpenTrunkFaceRule Number) (cache : FaceCache) (user : String) :
      Concerns (.openTrunkFace rule cache) (.face user)

theorem Concerns.dedupKey_inj {rule : RuleInstance Number} {name : String}
    {first second : Incident} (firstOf : rule.Concerns first) (secondOf : rule.Concerns second)
    (same : first.dedupKey name = second.dedupKey name) : first = second := by
  have number := separator_notMem_toString
  cases firstOf with
  | collision rule source a b =>
      cases secondOf with
      | collision _ source' a' b' =>
          obtain ⟨front, lastId⟩ := lastField_inj (number _) (number _) same
          obtain ⟨front, firstId⟩ := lastField_inj (number _) (number _) front
          rw [toString_toInt_inj lastId, toString_toInt_inj firstId]
          simpa using front
  | item rule state source trackId =>
      cases secondOf with
      | item _ _ source' trackId' =>
          obtain ⟨front, id⟩ := lastField_inj (number _) (number _) same
          rw [toString_toInt_inj id]
          simpa using front
      | mergedBag _ _ source' =>
          exact absurd same (Incident.item_dedupKey_ne_mergedBag _ _ _ _)
  | mergedBag rule state source =>
      cases secondOf with
      | item _ _ source' trackId' =>
          exact absurd same.symm (Incident.item_dedupKey_ne_mergedBag _ _ _ _)
      | mergedBag _ _ source' => simpa [Incident.dedupKey] using same
  | face rule cache user =>
      cases secondOf with
      | face _ _ user' => simpa [Incident.dedupKey] using same

theorem concerns_ofItem (rule : LeftItemRule Number) (state : LeftItemState Number)
    (source : String) (trackId : Int32) :
    (leftItem rule state).Concerns (.ofItem source trackId) := by
  rw [Incident.ofItem]
  split
  · exact .mergedBag ..
  · exact .item ..

variable [Scalar Number]

def proposed (event : RuleEvent Number) : RuleInstance Number → List (Incident × Alert)
  | .doorCollision rule => (rule.collisions event).map fun pair =>
      (.collision event.sourceId pair.1 pair.2, rule.collisionAlert event pair)
  | .leftItem rule state => (rule.decisions state event).filterMap fun decision =>
      decision.alert.map fun alert => (.ofItem event.sourceId decision.trackId, alert)
  | .openTrunkFace rule cache =>
      let known := rule.knownFaces (OpenTrunkFaceRule.forget cache event.removedTrackIds)
        event.detections
      known.1.map fun face => (.face face.2, rule.faceAlert event face.1 face.2)

theorem proposed_alerts (event : RuleEvent Number) (rule : RuleInstance Number) :
    (rule.proposed event).map Prod.snd = (rule.apply event).1 := by
  cases rule with
  | doorCollision rule => simp [proposed, apply, DoorCollisionRule.apply, Function.comp_def]
  | leftItem rule state =>
      simp [proposed, apply, LeftItemRule.apply, List.map_filterMap, Option.map_map,
        Function.comp_def]
  | openTrunkFace rule cache => simp [proposed, apply, OpenTrunkFaceRule.apply, Function.comp_def]

theorem Concerns.apply {rule : RuleInstance Number} {incident : Incident}
    (event : RuleEvent Number) :
    (rule.apply event).2.Concerns incident ↔ rule.Concerns incident := by
  cases rule <;> constructor <;> intro concerned <;> cases concerned <;> constructor

/-- A rule builds each alert with the key of what the alert is about. -/
theorem proposed_genuine {event : RuleEvent Number} {rule : RuleInstance Number}
    {incident : Incident} {alert : Alert} (member : (incident, alert) ∈ rule.proposed event) :
    rule.Concerns incident ∧ alert.dedupKey = incident.dedupKey rule.config.name ∧
      alert.timestamp = event.timestamp := by
  cases rule with
  | doorCollision rule =>
      simp only [proposed, List.mem_map, Prod.mk.injEq] at member
      obtain ⟨pair, _, rfl, rfl⟩ := member
      exact ⟨.collision .., by simp [DoorCollisionRule.collisionAlert, RuleConfig.buildAlert,
        Incident.dedupKey, config], rfl⟩
  | leftItem rule state =>
      simp only [proposed, List.mem_filterMap, Option.map_eq_some_iff, Prod.mk.injEq] at member
      obtain ⟨decision, decided, raised, alerted, rfl, rfl⟩ := member
      rw [LeftItemRule.decisions, List.mem_map] at decided
      obtain ⟨item, _, rfl⟩ := decided
      have same := rule.eq_itemAlert_of_decision alerted
      rw [same, LeftItemRule.itemAlert_dedupKey, LeftItemRule.itemAlert_timestamp,
        LeftItemRule.decision_trackId]
      exact ⟨concerns_ofItem .., rfl, rfl⟩
  | openTrunkFace rule cache =>
      simp only [proposed, List.mem_map, Prod.mk.injEq] at member
      obtain ⟨face, _, rfl, rfl⟩ := member
      exact ⟨.face .., by simp [OpenTrunkFaceRule.faceAlert, RuleConfig.buildAlert,
        Incident.dedupKey, config], rfl⟩

end RuleInstance

end Iq9Pipeline.RuleProcess
