import Iq9Pipeline.RuleProcess.RuleEngine
import Mathlib.Data.List.Count
import Mathlib.Data.List.Nodup

/-!
Which rules an event reaches. The dispatcher pushes a rule onto the route of a source
once for every time that its configuration lists the source, so that a source listed
twice steps the rule twice for one event.
-/

namespace Iq9Pipeline.RuleProcess

variable {Number : Type}

namespace Dispatcher

theorem addRoutes_eq (index : Nat) (routes : Routes) (targets : List String) (source : String) :
    targets.foldl (addRoute index) routes source =
      routes source ++ List.replicate (targets.count source) index := by
  induction targets generalizing routes with
  | nil => simp
  | cons target targets ih =>
      rw [List.foldl_cons, ih]
      by_cases same : target = source
      · subst same
        rw [addRoute, Function.update_self, List.count_cons_self, List.append_assoc,
          Nat.add_comm, List.replicate_add]
        rfl
      · rw [addRoute, Function.update_of_ne (Ne.symm same), List.count_cons_of_ne same]

def routeFrom (source : String) (index : Nat) : List (List String) → List Nat
  | [] => []
  | targets :: rest =>
      List.replicate (targets.count source) index ++
        routeFrom source (index + 1) rest

theorem routesFrom_eq (index : Nat) (routes : Routes) (rules : List (RuleInstance Number))
    (source : String) :
    routesFrom index routes rules source =
      routes source ++ routeFrom source index (rules.map RuleInstance.targetSources) := by
  induction rules generalizing index routes with
  | nil => simp [routesFrom, routeFrom]
  | cons rule rules ih =>
      rw [routesFrom, ih, addRoutes_eq, List.map_cons, routeFrom, List.append_assoc]

theorem routes_eq (rules : List (RuleInstance Number)) (source : String) :
    routes rules source = routeFrom source 0 (rules.map RuleInstance.targetSources) := by
  rw [routes, routesFrom_eq, List.nil_append]

def applicableFrom (source : String) (index : Nat) : List (List String) → List Nat
  | [] => []
  | targets :: rest =>
      if source ∈ targets then index :: applicableFrom source (index + 1) rest
      else applicableFrom source (index + 1) rest

theorem mem_applicableFrom {source : String} {index position : Nat}
    {rest : List (List String)} :
    position ∈ applicableFrom source index rest ↔
      ∃ offset targets, rest[offset]? = some targets ∧ position = index + offset ∧
        source ∈ targets := by
  induction rest generalizing index with
  | nil => simp [applicableFrom]
  | cons targets rest ih =>
      have later : position ∈ applicableFrom source (index + 1) rest ↔
          ∃ offset found, (targets :: rest)[offset + 1]? = some found ∧
            position = index + (offset + 1) ∧ source ∈ found := by
        rw [ih]
        simp only [List.getElem?_cons_succ, Nat.add_assoc, Nat.add_comm 1]
      rw [← Nat.or_exists_add_one]
      simp only [applicableFrom, List.getElem?_cons_zero, Option.some.injEq]
      split
      · rename_i listed
        rw [List.mem_cons, later]
        simp [listed]
      · rename_i unlisted
        rw [later]
        constructor
        · exact .inr
        · rintro (⟨found, rfl, _, listed⟩ | found)
          · exact absurd listed unlisted
          · exact found

theorem routeFrom_index_le {source : String} {index position : Nat}
    {rest : List (List String)} (member : position ∈ routeFrom source index rest) :
    index ≤ position := by
  induction rest generalizing index with
  | nil => simp [routeFrom] at member
  | cons targets rest ih =>
      rw [routeFrom, List.mem_append, List.mem_replicate] at member
      rcases member with ⟨_, rfl⟩ | later
      · exact Nat.le_refl _
      · exact Nat.le_of_succ_le (ih later)

theorem routeFrom_lt {source : String} {index position : Nat} {rest : List (List String)}
    (member : position ∈ routeFrom source index rest) : position < index + rest.length := by
  induction rest generalizing index with
  | nil => simp [routeFrom] at member
  | cons targets rest ih =>
      rw [routeFrom, List.mem_append, List.mem_replicate] at member
      rw [List.length_cons]
      rcases member with ⟨_, rfl⟩ | later
      · omega
      · have bound := ih later
        omega

theorem applicableFrom_index_le {source : String} {index position : Nat}
    {rest : List (List String)} (member : position ∈ applicableFrom source index rest) :
    index ≤ position := by
  obtain ⟨offset, _, _, rfl, _⟩ := mem_applicableFrom.mp member
  omega

theorem applicableFrom_nodup (source : String) (index : Nat)
    (rest : List (List String)) : (applicableFrom source index rest).Nodup := by
  induction rest generalizing index with
  | nil => exact List.nodup_nil
  | cons targets rest ih =>
      rw [applicableFrom]
      split
      · refine List.nodup_cons.mpr ⟨?_, ih (index + 1)⟩
        intro member
        have later := applicableFrom_index_le member
        omega
      · exact ih (index + 1)

theorem routeFrom_eq_applicableFrom_iff (source : String) (index : Nat)
    (rest : List (List String)) :
    routeFrom source index rest = applicableFrom source index rest ↔
      ∀ targets ∈ rest, targets.count source ≤ 1 := by
  induction rest generalizing index with
  | nil => simp [routeFrom, applicableFrom]
  | cons targets rest ih =>
      rw [List.forall_mem_cons, ← ih (index + 1)]
      have fresh : ∀ route : List Nat, (∀ position ∈ route, index + 1 ≤ position) →
          route.count index = 0 := by
        intro route bound
        rw [List.count_eq_zero]
        intro member
        have later := bound index member
        omega
      have first := fresh (routeFrom source (index + 1) rest) fun _ => routeFrom_index_le
      have second := fresh (applicableFrom source (index + 1) rest)
        fun _ => applicableFrom_index_le
      constructor
      · intro same
        have counts := congrArg (List.count index) same
        rw [routeFrom, List.count_append, List.count_replicate_self, first] at counts
        rw [routeFrom, applicableFrom] at same
        rw [applicableFrom] at counts
        split at counts
        · rename_i listed
          rw [List.count_cons_self, second] at counts
          refine ⟨by omega, ?_⟩
          rw [if_pos listed, show targets.count source = 1 by omega] at same
          exact (List.cons.inj same).2
        · rename_i unlisted
          rw [second] at counts
          refine ⟨by omega, ?_⟩
          rw [if_neg unlisted, show targets.count source = 0 by omega] at same
          exact same
      · rintro ⟨single, same⟩
        rw [routeFrom, applicableFrom, same]
        split
        · rename_i listed
          have positive := List.count_pos_iff.mpr listed
          rw [show targets.count source = 1 by omega]
          rfl
        · rename_i unlisted
          rw [List.count_eq_zero.mpr unlisted]
          rfl

variable [Scalar Number]

theorem applyRoute_fst (event : RuleEvent Number) {route : List Nat}
    {rules : List (RuleInstance Number)} (inRange : ∀ index ∈ route, index < rules.length) :
    (applyRoute event route rules).1.map Prod.fst = route := by
  induction route generalizing rules with
  | nil => rfl
  | cons index route ih =>
      rw [List.forall_mem_cons] at inRange
      rw [applyRoute, List.getElem?_eq_getElem inRange.1]
      simp only [List.map_cons, List.cons.injEq, true_and]
      exact ih (by simpa using inRange.2)

theorem applyRoute_targetSources (event : RuleEvent Number) (route : List Nat)
    (rules : List (RuleInstance Number)) :
    (applyRoute event route rules).2.map RuleInstance.targetSources =
      rules.map RuleInstance.targetSources := by
  induction route generalizing rules with
  | nil => rfl
  | cons index route ih =>
      rw [applyRoute]
      split
      · rename_i rule found
        obtain ⟨inRange, rfl⟩ := List.getElem?_eq_some_iff.mp found
        rw [ih, List.map_set, RuleInstance.targetSources, RuleInstance.apply_config]
        rw [← RuleInstance.targetSources, ← List.map_set, List.set_getElem_self]
      · exact ih rules

theorem applyRoute_untouched (event : RuleEvent Number) {route : List Nat}
    {rules : List (RuleInstance Number)} {position : Nat} (absent : position ∉ route) :
    (applyRoute event route rules).2[position]? = rules[position]? := by
  induction route generalizing rules with
  | nil => rfl
  | cons index route ih =>
      rw [List.mem_cons, not_or] at absent
      rw [applyRoute]
      split
      · rw [ih absent.2, List.getElem?_set_ne (Ne.symm absent.1)]
      · exact ih absent.2

theorem applyRoute_of_nodup (event : RuleEvent Number) {route : List Nat}
    {rules : List (RuleInstance Number)} (nodup : route.Nodup)
    (inRange : ∀ index ∈ route, index < rules.length) :
    (applyRoute event route rules).1.map Prod.snd =
        route.map (fun index => (rules[index]?.map fun rule => (rule.apply event).1).getD []) ∧
      ∀ index ∈ route, (applyRoute event route rules).2[index]? =
        rules[index]?.map fun rule => (rule.apply event).2 := by
  induction route generalizing rules with
  | nil => simp [applyRoute]
  | cons index route ih =>
      rw [List.forall_mem_cons] at inRange
      obtain ⟨fresh, nodup⟩ := List.nodup_cons.mp nodup
      have found := List.getElem?_eq_getElem inRange.1
      have rest := @ih (rules.set index (rules[index].apply event).2) nodup
        (by simpa using inRange.2)
      have unchanged : ∀ other ∈ route,
          (rules.set index (rules[index].apply event).2)[other]? = rules[other]? := by
        intro other member
        refine List.getElem?_set_ne ?_
        rintro rfl
        exact fresh member
      rw [applyRoute, found]
      refine ⟨?_, ?_⟩
      · simp only [List.map_cons, Option.map_some, Option.getD_some, List.cons.injEq,
          true_and, found]
        rw [rest.1]
        refine List.map_congr_left fun other member => ?_
        rw [unchanged other member]
      · intro other member
        rcases List.mem_cons.mp member with rfl | later
        · rw [applyRoute_untouched event fresh, List.getElem?_set_self inRange.1, found]
          rfl
        · rw [rest.2 other later, unchanged other later]

end Dispatcher

namespace RuleEngine

variable [Scalar Number]

def applicable (engine : RuleEngine Number) (source : String) : List Nat :=
  Dispatcher.applicableFrom source 0 (engine.rules.map RuleInstance.targetSources)

def alertsOf (engine : RuleEngine Number) (event : RuleEvent Number) (index : Nat) : List Alert :=
  (engine.rules[index]?.map fun rule => (rule.apply event).1).getD []

/-- An event steps every rule that applies to it once, in configuration order, and no
other rule. -/
structure AppliesOnce (engine : RuleEngine Number) (event : RuleEvent Number) : Prop where
  once : (engine.applied event).1.map Prod.fst = engine.applicable event.sourceId
  candidates : engine.candidates event =
    (engine.applicable event.sourceId).flatMap (engine.alertsOf event)
  stepped : ∀ index ∈ engine.applicable event.sourceId, (engine.applied event).2[index]? =
    engine.rules[index]?.map fun rule => (rule.apply event).2
  untouched : ∀ index ∉ engine.applicable event.sourceId,
    (engine.applied event).2[index]? = engine.rules[index]?

structure Routed (engine : RuleEngine Number) : Prop where
  routes : ∀ source, engine.routes source =
    Dispatcher.routeFrom source 0 (engine.rules.map RuleInstance.targetSources)

theorem create_routed (files : String → FaceFile) (alertParams : AlertManagerParams)
    (configs : List (RuleConfig Number)) : (create files alertParams configs).Routed :=
  ⟨Dispatcher.routes_eq _⟩

variable {byPriority : StdSort Alert.rank} {byAge : StdSort Entry.rank}
  {engine : RuleEngine Number}

theorem after_targetSources (events : List (RuleEvent Number)) :
    (engine.after byPriority byAge events).rules.map RuleInstance.targetSources =
      engine.rules.map RuleInstance.targetSources := by
  induction events generalizing engine with
  | nil => rfl
  | cons event events ih =>
      rw [after, List.foldl_cons, ← after, ih]
      exact Dispatcher.applyRoute_targetSources event _ engine.rules

theorem after_routes (events : List (RuleEvent Number)) :
    (engine.after byPriority byAge events).routes = engine.routes := by
  induction events generalizing engine with
  | nil => rfl
  | cons event events ih =>
      rw [after, List.foldl_cons, ← after, ih]
      rfl

theorem Routed.after (routed : engine.Routed) (events : List (RuleEvent Number)) :
    (engine.after byPriority byAge events).Routed := by
  refine ⟨fun source => ?_⟩
  rw [after_routes, after_targetSources, routed.routes]

theorem Routed.appliesOnce_iff (routed : engine.Routed) (event : RuleEvent Number) :
    engine.AppliesOnce event ↔ ∀ targets ∈ engine.rules.map RuleInstance.targetSources,
      targets.count event.sourceId ≤ 1 := by
  have inRange : ∀ index ∈ engine.routes event.sourceId, index < engine.rules.length := by
    intro index member
    rw [routed.routes] at member
    simpa using Dispatcher.routeFrom_lt member
  have steps : (engine.applied event).1.map Prod.fst = engine.routes event.sourceId :=
    Dispatcher.applyRoute_fst event inRange
  have single := Dispatcher.routeFrom_eq_applicableFrom_iff event.sourceId 0
    (engine.rules.map RuleInstance.targetSources)
  rw [← routed.routes] at single
  constructor
  · intro applies
    rw [← single, ← steps]
    exact applies.once
  · intro counts
    have route := single.mpr counts
    have nodup : (engine.routes event.sourceId).Nodup := by
      rw [route]
      exact Dispatcher.applicableFrom_nodup _ _ _
    have applied := Dispatcher.applyRoute_of_nodup event nodup inRange
    refine ⟨steps.trans route, ?_, ?_, ?_⟩
    · rw [candidates, RuleEngine.applied, applied.1, route, List.flatMap]
      rfl
    · intro index member
      exact applied.2 index (by rw [route]; exact member)
    · intro index absent
      exact Dispatcher.applyRoute_untouched event (by rw [route]; exact absent)

theorem create_targetSources (files : String → FaceFile) (alertParams : AlertManagerParams)
    (configs : List (RuleConfig Number)) :
    (create files alertParams configs).rules.map RuleInstance.targetSources =
      (configs.filter fun config => (acceptRule files config).isSome).map
        RuleConfig.targetSources := by
  rw [create]
  induction configs with
  | nil => rfl
  | cons config configs ih =>
      rw [List.filterMap_cons, List.filter_cons]
      cases accepted : acceptRule files config with
      | none => simpa [accepted] using ih
      | some rule =>
          simp only [List.map_cons, Option.isSome_some, if_true, List.cons.injEq]
          have created := (acceptRule_eq_some_iff.mp accepted).1
          exact ⟨by rw [RuleInstance.targetSources, createRule_config created], ih⟩

/-- In whatever state the engine is, an event steps each rule once exactly where no
accepted rule lists the event's source more than once. -/
theorem appliesOnce_iff_listed_once (files : String → FaceFile)
    (alertParams : AlertManagerParams) (configs : List (RuleConfig Number))
    (byPriority : StdSort Alert.rank) (byAge : StdSort Entry.rank)
    (earlier : List (RuleEvent Number)) (event : RuleEvent Number) :
    ((create files alertParams configs).after byPriority byAge earlier).AppliesOnce event ↔
      ∀ config ∈ configs, (acceptRule files config).isSome →
        config.targetSources.count event.sourceId ≤ 1 := by
  rw [((create_routed files alertParams configs).after earlier).appliesOnce_iff,
    after_targetSources, create_targetSources]
  simp only [List.forall_mem_map, List.mem_filter, and_imp]

def twiceListed : RuleConfig Float32 where
  name := "LeftItemRule"
  priority := 1
  targetSources := ["source_001", "source_001"]
  targetClasses := ["bag"]
  params := [("grace_period_sec", 1), ("item_owner_iou_threshold", 0.5)]
  strParams := []

theorem not_appliesOnce_of_listed_twice :
    ¬ ∀ (configs : List (RuleConfig Float32)) (event : RuleEvent Float32),
      (create (fun _ => .missing) {} configs).AppliesOnce event := by
  intro universal
  have once := (universal [twiceListed] ⟨"source_001", 1, [], []⟩).once
  revert once
  decide +kernel

end RuleEngine

end Iq9Pipeline.RuleProcess
