import Iq9Pipeline.RuleProcess.AlertManager
import Iq9Pipeline.RuleProcess.DoorCollisionRule
import Iq9Pipeline.RuleProcess.LeftItemRule
import Iq9Pipeline.RuleProcess.OpenTrunkFaceRule

/-!
The rule engine (`core/Registry.cpp`, `core/Dispatcher.cpp`, `core/RuleEngine.cpp`):
the rules that a list of configurations creates, the routes from each source to its
rules, and the step from an event to the alerts that are emitted for it. A route
names a rule by its place in the list, as the shared pointers do.
-/

namespace Iq9Pipeline.RuleProcess

variable {Number : Type} [Scalar Number]

inductive RuleInstance (Number : Type)
  | doorCollision (rule : DoorCollisionRule Number)
  | leftItem (rule : LeftItemRule Number) (state : LeftItemState Number)
  | openTrunkFace (rule : OpenTrunkFaceRule Number) (cache : FaceCache)

namespace RuleInstance

def config : RuleInstance Number → RuleConfig Number
  | .doorCollision rule => rule.toRuleConfig
  | .leftItem rule _ => rule.toRuleConfig
  | .openTrunkFace rule _ => rule.toRuleConfig

def targetSources (rule : RuleInstance Number) : List String :=
  rule.config.targetSources

def validate : RuleInstance Number → Status
  | .doorCollision rule => rule.validate
  | .leftItem rule _ => rule.validate
  | .openTrunkFace rule _ => rule.validate

def apply (event : RuleEvent Number) : RuleInstance Number → List Alert × RuleInstance Number
  | .doorCollision rule => (rule.apply event, .doorCollision rule)
  | .leftItem rule state =>
      let applied := rule.apply state event
      (applied.1, .leftItem rule applied.2)
  | .openTrunkFace rule cache =>
      let applied := rule.apply cache event
      (applied.1, .openTrunkFace rule applied.2)

theorem apply_config (event : RuleEvent Number) (rule : RuleInstance Number) :
    (rule.apply event).2.config = rule.config := by
  cases rule <;> rfl

end RuleInstance

def createRule (files : String → FaceFile) (config : RuleConfig Number) :
    Option (RuleInstance Number) :=
  if config.name = "DoorCollisionRule" then
    some (.doorCollision (DoorCollisionRule.ofConfig config))
  else if config.name = "LeftItemRule" then
    some (.leftItem (LeftItemRule.ofConfig config) {})
  else if config.name = "OpenTrunkFaceRule" then
    some (.openTrunkFace (OpenTrunkFaceRule.ofConfig files config) ∅)
  else none

def acceptRule (files : String → FaceFile) (config : RuleConfig Number) :
    Option (RuleInstance Number) :=
  match createRule files config with
  | some rule =>
      match rule.validate with
      | .ok _ => some rule
      | .error _ => none
  | none => none

theorem acceptRule_eq_some_iff {files : String → FaceFile} {config : RuleConfig Number}
    {rule : RuleInstance Number} :
    acceptRule files config = some rule ↔
      createRule files config = some rule ∧ rule.validate = .ok () := by
  rw [acceptRule]
  cases createRule files config with
  | none => simp
  | some candidate =>
      simp only [Option.some.injEq]
      split
      · rename_i valid
        simp only [Option.some.injEq, iff_self_and]
        rintro rfl
        exact valid
      · rename_i message invalid
        simp only [reduceCtorEq, false_iff, not_and]
        rintro rfl
        simp [invalid]

theorem createRule_cases {files : String → FaceFile} {config : RuleConfig Number}
    {rule : RuleInstance Number} (created : createRule files config = some rule) :
    rule = .doorCollision (DoorCollisionRule.ofConfig config) ∨
      rule = .leftItem (LeftItemRule.ofConfig config) {} ∨
      rule = .openTrunkFace (OpenTrunkFaceRule.ofConfig files config) ∅ := by
  rw [createRule] at created
  split at created
  · exact .inl (Option.some.inj created).symm
  · split at created
    · exact .inr (.inl (Option.some.inj created).symm)
    · split at created
      · exact .inr (.inr (Option.some.inj created).symm)
      · simp at created

theorem createRule_config {files : String → FaceFile} {config : RuleConfig Number}
    {rule : RuleInstance Number} (created : createRule files config = some rule) :
    rule.config = config := by
  rcases createRule_cases created with rfl | rfl | rfl <;> rfl

abbrev Routes := String → List Nat

namespace Dispatcher

def addRoute (index : Nat) (routes : Routes) (source : String) : Routes :=
  Function.update routes source (routes source ++ [index])

def routesFrom (index : Nat) (routes : Routes) : List (RuleInstance Number) → Routes
  | [] => routes
  | rule :: rules =>
      routesFrom (index + 1) (rule.targetSources.foldl (addRoute index) routes) rules

def routes (rules : List (RuleInstance Number)) : Routes :=
  routesFrom 0 (fun _ => []) rules

def applyRoute (event : RuleEvent Number) :
    List Nat → List (RuleInstance Number) → List (Nat × List Alert) × List (RuleInstance Number)
  | [], rules => ([], rules)
  | index :: route, rules =>
      match rules[index]? with
      | some rule =>
          let applied := rule.apply event
          let rest := applyRoute event route (rules.set index applied.2)
          ((index, applied.1) :: rest.1, rest.2)
      | none => applyRoute event route rules

end Dispatcher

structure RuleEngine (Number : Type) where
  rules : List (RuleInstance Number)
  routes : Routes
  alertManager : AlertManager

namespace RuleEngine

def create (files : String → FaceFile) (alertParams : AlertManagerParams)
    (configs : List (RuleConfig Number)) : RuleEngine Number :=
  let rules := configs.filterMap (acceptRule files)
  { rules := rules
    routes := Dispatcher.routes rules
    alertManager := AlertManager.init alertParams }

def applied (engine : RuleEngine Number) (event : RuleEvent Number) :
    List (Nat × List Alert) × List (RuleInstance Number) :=
  Dispatcher.applyRoute event (engine.routes event.sourceId) engine.rules

def candidates (engine : RuleEngine Number) (event : RuleEvent Number) : List Alert :=
  ((engine.applied event).1.map Prod.snd).flatten

def processEvent (byPriority : StdSort Alert.rank) (byAge : StdSort Entry.rank)
    (engine : RuleEngine Number) (event : RuleEvent Number) :
    List Alert × RuleEngine Number :=
  let outcome := engine.alertManager.processAlerts byPriority byAge (engine.candidates event)
  (outcome.finalAlerts,
    { engine with rules := (engine.applied event).2, alertManager := outcome.manager })

def after (byPriority : StdSort Alert.rank) (byAge : StdSort Entry.rank)
    (engine : RuleEngine Number) (events : List (RuleEvent Number)) : RuleEngine Number :=
  events.foldl (fun engine event => (engine.processEvent byPriority byAge event).2) engine

end RuleEngine

end Iq9Pipeline.RuleProcess
