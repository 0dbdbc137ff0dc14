import Iq9Pipeline.RuleProcess.LeftItemTimer
import Mathlib.Data.List.Induction

/-!
When the left-item rule raises its alert, told by the run and not by the timers: at the end
of a stretch of calls that all find the item there and unowned, at the first of them that
comes a grace period after the beginning of the stretch.
-/

namespace Iq9Pipeline.RuleProcess

variable {Number : Type} [Scalar Number]

def ownerBoxes (considered : Sighting Number → Bool) :
    Std.TreeMap Int32 (PersonState Number) → List (Sighting Number) → List (List Number)
  | _, [] => []
  | persons, det :: detections =>
      if det.className = "person" ∧ considered det then
        let seen := LeftItemRule.isStaticPerson persons det.trackId det.bbox
        if seen.1 then ownerBoxes considered seen.2 detections
        else det.bbox :: ownerBoxes considered seen.2 detections
      else ownerBoxes considered persons detections

def confident (det : Sighting Number) : Bool :=
  decide ((0.4 : Number) ≤ det.confidence)

theorem Timer.tick_started {gracePeriodUs now start : UInt64} {alerted : Bool}
    (begun : start ≠ 0) (later : start ≤ now) :
    Timer.tick gracePeriodUs now ⟨start, alerted⟩ =
      ⟨start, alerted || decide (start.toNat + gracePeriodUs.toNat ≤ now.toNat)⟩ := by
  cases alerted with
  | false => simp [Timer.tick_counting begun later]
  | true => simp [Timer.tick, begun]

namespace LeftItemRule

theorem scan_personBboxes (rule : LeftItemRule Number)
    (persons : Std.TreeMap Int32 (PersonState Number)) (detections : List (Sighting Number)) :
    (rule.scan persons detections).2.personBboxes = ownerBoxes confident persons detections := by
  have gathers : ∀ gathered : Gathered Number,
      (detections.foldl rule.scanDetection (persons, gathered)).2.personBboxes =
        gathered.personBboxes ++ ownerBoxes confident persons detections := by
    induction detections generalizing persons with
    | nil => simp [ownerBoxes]
    | cons det detections ih =>
        intro gathered
        rw [List.foldl_cons, scanDetection, ownerBoxes]
        dsimp only
        split
        · rename_i person
          by_cases sure : (0.4 : Number) ≤ det.confidence
          · simp only [sure, person, confident, decide_true, and_self, if_true]
            split
            · exact ih _ _
            · rw [ih]
              simp
          · simp only [sure, person, confident, decide_false, Bool.false_eq_true, and_false,
              if_false]
            exact ih _ _
        · rename_i other
          simp only [other, false_and, if_false]
          split
          · exact ih _ _
          · split
            · split <;> exact ih _ _
            · exact ih _ _
  exact gathers {}

variable (rule : LeftItemRule Number)

def Present (trackId : Int32) (visit : Visit Number) : Prop :=
  (rule.refreshed visit.state visit.event).itemStates[trackId]?.isSome

/-- The widened box of a person that is not static overlaps the last box of the item. -/
def Owned (considered : Sighting Number → Bool) (trackId : Int32) (visit : Visit Number) : Prop :=
  ∃ item, (rule.refreshed visit.state visit.event).itemStates[trackId]? = some item ∧
    ∃ bbox ∈ ownerBoxes considered visit.state.personStates visit.event.detections,
      4 ≤ bbox.length ∧
        rule.itemOwnerIouThreshold < calculateIou
          (calculateDangerZone bbox rule.itemOwnerHExpand rule.itemOwnerVExpand) item.bbox

instance (considered : Sighting Number → Bool) (trackId : Int32) (visit : Visit Number) :
    Decidable (rule.Owned considered trackId visit) :=
  decidable_of_iff
    ((rule.refreshed visit.state visit.event).itemStates[trackId]?.any (fun item =>
      (ownerBoxes considered visit.state.personStates visit.event.detections).any fun bbox =>
        decide (4 ≤ bbox.length ∧ rule.itemOwnerIouThreshold < calculateIou
          (calculateDangerZone bbox rule.itemOwnerHExpand rule.itemOwnerVExpand) item.bbox)) =
      true)
    (by simp [Owned, Option.any_eq_true])

def Idle (considered : Sighting Number → Bool) (trackId : Int32) (visit : Visit Number) : Prop :=
  rule.Present trackId visit ∧ ¬ rule.Owned considered trackId visit

theorem idle_iff (trackId : Int32) (visit : Visit Number) :
    rule.Idle confident trackId visit ↔ rule.Unowned trackId visit := by
  simp only [Idle, Unowned, Present, Owned, ← rule.scan_personBboxes]
  cases (rule.refreshed visit.state visit.event).itemStates[trackId]? with
  | none => simp
  | some item =>
      simp only [Option.some.injEq, exists_eq_left', Option.isSome_some, true_and, hasOwner, zones,
        personOwnerZones, List.any_map, List.any_filter, List.any_eq_false, Function.comp_apply,
        Bool.and_eq_true, decide_eq_true_eq, not_exists, not_and]

/-- A stretch of calls that find the item there and unowned, from the first one after its
creation or after the last call that found it owned. -/
structure Stretch (considered : Sighting Number → Bool) (trackId : Int32)
    (past : List (RuleEvent Number)) (start : RuleEvent Number)
    (more : List (RuleEvent Number)) : Prop where
  begins : rule.erases trackId ⟨start, rule.after {} past⟩ = true ∨
    ∀ visit, (rule.visits {} past).getLast? = some visit →
      ¬ rule.Idle considered trackId visit
  idle : ∀ visit ∈ rule.visits (rule.after {} past) (start :: more),
    rule.Idle considered trackId visit
  stays : ∀ visit ∈ rule.visits (rule.after {} (past ++ [start])) more,
    rule.erases trackId visit = false

/-- The alert of an item is due: its stretch has lasted a grace period, and brought none. -/
def Due (considered : Sighting Number → Bool) (trackId : Int32) (events : List (RuleEvent Number))
    (event : RuleEvent Number) : Prop :=
  ∃ past start more, events ++ [event] = past ++ start :: more ∧
    rule.Stretch considered trackId past start more ∧
    start.timestamp.toNat + rule.gracePeriodUs.toNat ≤ event.timestamp.toNat ∧
    ∀ visit ∈ (rule.visits (rule.after {} past) (start :: more)).dropLast,
      rule.raises trackId visit = false

variable {rule}

theorem after_append (state : LeftItemState Number) (events more : List (RuleEvent Number)) :
    rule.after state (events ++ more) = rule.after (rule.after state events) more :=
  List.foldl_append

theorem visits_concat (state : LeftItemState Number) (events : List (RuleEvent Number))
    (event : RuleEvent Number) :
    rule.visits state (events ++ [event]) =
      rule.visits state events ++ [⟨event, rule.after state events⟩] := by
  rw [visits_append]
  rfl

theorem unowned_of_raises {trackId : Int32} {visit : Visit Number}
    (raised : rule.raises trackId visit = true) : rule.Unowned trackId visit := by
  simp only [raises, List.any_eq_true, decide_eq_true_eq, rule.mem_apply] at raised
  obtain ⟨alert, ⟨other, item, found, built⟩, named⟩ := raised
  rw [rule.eq_itemAlert_of_decision built, itemAlert_trackId] at named
  dsimp only at named
  subst named
  refine ⟨item, found, ?_⟩
  by_contra owned
  rw [rule.decision_of_owned (by simpa using owned)] at built
  simp at built

namespace Stretch

variable {trackId : Int32} {past more : List (RuleEvent Number)} {start event : RuleEvent Number}

theorem concat_iff :
    rule.Stretch confident trackId past start (more ++ [event]) ↔
      rule.Stretch confident trackId past start more ∧
        rule.Unowned trackId ⟨event, rule.after {} (past ++ start :: more)⟩ ∧
        rule.erases trackId ⟨event, rule.after {} (past ++ start :: more)⟩ = false := by
  have idle : ∀ visit, visit ∈ rule.visits (rule.after {} past) (start :: (more ++ [event])) ↔
      visit ∈ rule.visits (rule.after {} past) (start :: more) ∨
        visit = ⟨event, rule.after {} (past ++ start :: more)⟩ := by
    intro visit
    rw [← List.cons_append, visits_concat, List.mem_append, List.mem_singleton, after_append]
  have stays : ∀ visit, visit ∈ rule.visits (rule.after {} (past ++ [start])) (more ++ [event]) ↔
      visit ∈ rule.visits (rule.after {} (past ++ [start])) more ∨
        visit = ⟨event, rule.after {} (past ++ start :: more)⟩ := by
    intro visit
    rw [visits_concat, List.mem_append, List.mem_singleton, ← after_append, List.append_assoc,
      List.singleton_append]
  constructor
  · intro stretch
    have last := stretch.idle _ ((idle _).mpr (.inr rfl))
    exact ⟨⟨stretch.begins, fun visit member => stretch.idle visit ((idle visit).mpr (.inl member)),
      fun visit member => stretch.stays visit ((stays visit).mpr (.inl member))⟩,
      (rule.idle_iff _ _).mp last, stretch.stays _ ((stays _).mpr (.inr rfl))⟩
  · rintro ⟨stretch, unowned, kept⟩
    refine ⟨stretch.begins, fun visit member => ?_, fun visit member => ?_⟩
    · rcases (idle visit).mp member with earlier | rfl
      · exact stretch.idle visit earlier
      · exact (rule.idle_iff _ _).mpr unowned
    · rcases (stays visit).mp member with earlier | rfl
      · exact stretch.stays visit earlier
      · exact kept

theorem fresh (stretch : rule.Stretch confident trackId past start more) :
    (rule.refreshed (rule.after {} past) start).timer trackId = {} := by
  have cleared := @refreshed_timer _ _ rule trackId ⟨start, rule.after {} past⟩
  dsimp only at cleared
  rw [cleared]
  split
  · rfl
  · rename_i kept
    rcases stretch.begins with erased | free
    · exact absurd erased kept
    · refine timer_after_of_not_unowned (fun _ => rfl) fun visit last unowned => ?_
      exact free visit last ((rule.idle_iff _ _).mpr unowned)

theorem first_unowned (stretch : rule.Stretch confident trackId past start more) :
    rule.Unowned trackId ⟨start, rule.after {} past⟩ :=
  (rule.idle_iff _ _).mp (stretch.idle _ List.mem_cons_self)

theorem first_silent (grace : rule.gracePeriodUs ≠ 0)
    (stretch : rule.Stretch confident trackId past start more) :
    rule.raises trackId ⟨start, rule.after {} past⟩ = false := by
  have raised := raises_of_unowned stretch.first_unowned
  rw [timer_of_unowned stretch.first_unowned] at raised
  dsimp only at raised
  rw [stretch.fresh, Timer.tick_fresh grace] at raised
  simpa using raised

/-- The timer of the item at one more call of the stretch, from its timer before. -/
theorem tick (stretch : rule.Stretch confident trackId past start (more ++ [event]))
    (begun : start.timestamp ≠ 0) (later : start.timestamp ≤ event.timestamp) {fired : Bool}
    (timer : (rule.after {} (past ++ start :: more)).timer trackId = ⟨start.timestamp, fired⟩) :
    (rule.after {} (past ++ start :: (more ++ [event]))).timer trackId =
        ⟨start.timestamp, fired || decide (start.timestamp.toNat + rule.gracePeriodUs.toNat ≤
          event.timestamp.toNat)⟩ ∧
      (rule.raises trackId ⟨event, rule.after {} (past ++ start :: more)⟩ = true ↔
        fired = false ∧
          start.timestamp.toNat + rule.gracePeriodUs.toNat ≤ event.timestamp.toNat) := by
  obtain ⟨_, unowned, kept⟩ := concat_iff.mp stretch
  have ticked := timer_of_unowned unowned
  have raised := raises_of_unowned unowned
  have refreshed := @refreshed_timer _ _ rule trackId
    ⟨event, rule.after {} (past ++ start :: more)⟩
  dsimp only at ticked raised refreshed
  rw [kept, if_neg Bool.false_ne_true, timer] at refreshed
  rw [refreshed, Timer.tick_started begun later] at ticked
  have split : past ++ start :: (more ++ [event]) = (past ++ start :: more) ++ [event] := by
    simp
  rw [split, after_append]
  refine ⟨ticked, ?_⟩
  rw [raised, refreshed, ticked]
  cases fired <;> simp

/-- Over a stretch, the timer tells its beginning and whether it has brought the alert. -/
theorem timer (grace : rule.gracePeriodUs ≠ 0)
    (stretch : rule.Stretch confident trackId past start more) (begun : start.timestamp ≠ 0)
    (later : ∀ event ∈ more, start.timestamp ≤ event.timestamp) :
    (rule.after {} (past ++ start :: more)).timer trackId = ⟨start.timestamp,
      (rule.visits (rule.after {} past) (start :: more)).any (rule.raises trackId)⟩ := by
  induction more using List.reverseRecOn with
  | nil =>
      have ticked := timer_of_unowned stretch.first_unowned
      dsimp only at ticked
      rw [stretch.fresh, Timer.tick_fresh grace] at ticked
      have one : (rule.visits (rule.after {} past) [start]).any (rule.raises trackId) = false := by
        simp [visits, stretch.first_silent grace]
      rw [one, after_append]
      exact ticked
  | append_singleton more event ih =>
      have earlier := ih (concat_iff.mp stretch).1
        fun event member => later event (List.mem_append_left _ member)
      obtain ⟨ticked, raised⟩ := stretch.tick begun
        (later event (List.mem_append_right _ List.mem_cons_self)) earlier
      rw [ticked, ← List.cons_append, visits_concat, List.any_append, ← after_append]
      generalize (rule.visits (rule.after {} past) (start :: more)).any (rule.raises trackId) =
        fired at raised ⊢
      congr 1
      rw [Bool.eq_iff_iff, Bool.or_eq_true, Bool.or_eq_true, decide_eq_true_eq, List.any_cons,
        List.any_nil, Bool.or_false, raised]
      cases fired <;> simp

end Stretch

theorem exists_stretch {trackId : Int32} {events : List (RuleEvent Number)}
    {event : RuleEvent Number} (unowned : rule.Unowned trackId ⟨event, rule.after {} events⟩) :
    ∃ past start more, events ++ [event] = past ++ start :: more ∧
      rule.Stretch confident trackId past start more := by
  have alone : (rule.erases trackId ⟨event, rule.after {} events⟩ = true ∨
      ∀ visit, (rule.visits {} events).getLast? = some visit →
        ¬ rule.Idle confident trackId visit) →
      rule.Stretch confident trackId events event [] := by
    intro begins
    refine ⟨begins, fun visit member => ?_, by simp [visits]⟩
    rw [visits, visits, List.mem_singleton] at member
    exact member ▸ (rule.idle_iff _ _).mpr unowned
  induction events using List.reverseRecOn generalizing event with
  | nil => exact ⟨[], event, [], rfl, alone (.inr (by simp [visits]))⟩
  | append_singleton events earlier ih =>
      by_cases goesOn : rule.erases trackId ⟨event, rule.after {} (events ++ [earlier])⟩ = false ∧
          rule.Unowned trackId ⟨earlier, rule.after {} events⟩
      · have before : ∃ past start more, events ++ [earlier] = past ++ start :: more ∧
            rule.Stretch confident trackId past start more := by
          refine ih goesOn.2 fun begins => ⟨begins, fun visit member => ?_, by simp [visits]⟩
          rw [visits, visits, List.mem_singleton] at member
          exact member ▸ (rule.idle_iff _ _).mpr goesOn.2
        obtain ⟨past, start, more, shape, stretch⟩ := before
        rw [shape] at unowned goesOn ⊢
        exact ⟨past, start, more ++ [event], by simp,
          Stretch.concat_iff.mpr ⟨stretch, unowned, goesOn.1⟩⟩
      · refine ⟨events ++ [earlier], event, [], rfl, alone ?_⟩
        by_cases erased : rule.erases trackId ⟨event, rule.after {} (events ++ [earlier])⟩ = true
        · exact .inl erased
        · refine .inr fun visit last idle => goesOn ⟨by simpa using erased, ?_⟩
          rw [visits_concat, List.getLast?_concat, Option.some.injEq] at last
          exact (rule.idle_iff _ _).mp (last ▸ idle)

/-- The alert of an item is raised exactly at the calls at which it is due. -/
theorem exists_alert_iff_due (rule : LeftItemRule Number) (valid : rule.validate = .ok ())
    (events : List (RuleEvent Number)) (event : RuleEvent Number) (trackId : Int32)
    (positive : ∀ call ∈ events ++ [event], call.timestamp ≠ 0)
    (ordered : (events ++ [event]).Pairwise fun first second =>
      first.timestamp ≤ second.timestamp) :
    (∃ alert ∈ (rule.apply (rule.after {} events) event).1, alert.trackId = trackId) ↔
      rule.Due confident trackId events event := by
  have grace := gracePeriodUs_ne_zero valid
  have raised : (∃ alert ∈ (rule.apply (rule.after {} events) event).1,
      alert.trackId = trackId) ↔ rule.raises trackId ⟨event, rule.after {} events⟩ = true := by
    simp [raises]
  rw [raised]
  have decided : ∀ past start more, events ++ [event] = past ++ start :: more →
      rule.Stretch confident trackId past start more →
        (rule.raises trackId ⟨event, rule.after {} events⟩ = true ↔
          start.timestamp.toNat + rule.gracePeriodUs.toNat ≤ event.timestamp.toNat ∧
          ∀ visit ∈ (rule.visits (rule.after {} past) (start :: more)).dropLast,
            rule.raises trackId visit = false) := by
    intro past start more shape stretch
    rw [shape] at positive ordered
    have begun := positive start (by simp)
    have later := (List.pairwise_cons.mp (List.pairwise_append.mp ordered).2.1).1
    rcases List.eq_nil_or_concat' more with rfl | ⟨more, last, rfl⟩
    · obtain ⟨rfl, ends⟩ := List.append_inj' shape rfl
      obtain rfl := (List.cons.inj ends).1
      have never : ¬ event.timestamp.toNat + rule.gracePeriodUs.toNat ≤ event.timestamp.toNat := by
        have positive := UInt64.toNat_inj.ne.mpr grace
        rw [UInt64.toNat_zero] at positive
        omega
      simp [stretch.first_silent grace, never]
    · rw [← List.cons_append, ← List.append_assoc] at shape
      obtain ⟨rfl, ends⟩ := List.append_inj' shape rfl
      obtain rfl := (List.cons.inj ends).1
      have timer := (Stretch.concat_iff.mp stretch).1.timer grace begun
        fun call member => later call (List.mem_append_left _ member)
      have ticked := stretch.tick begun
        (later event (List.mem_append_right _ List.mem_cons_self)) timer
      rw [ticked.2, ← List.cons_append, visits_concat, List.dropLast_concat, List.any_eq_false,
        and_comm]
      simp
  constructor
  · intro raises
    obtain ⟨past, start, more, shape, stretch⟩ := exists_stretch (unowned_of_raises raises)
    have due := (decided past start more shape stretch).mp raises
    exact ⟨past, start, more, shape, stretch, due.1, due.2⟩
  · rintro ⟨past, start, more, shape, stretch, out, silent⟩
    exact (decided past start more shape stretch).mpr ⟨out, silent⟩

theorem Due.idle {considered : Sighting Number → Bool} {trackId : Int32}
    {events : List (RuleEvent Number)} {event : RuleEvent Number}
    (due : rule.Due considered trackId events event) :
    rule.Idle considered trackId ⟨event, rule.after {} events⟩ := by
  obtain ⟨past, start, more, shape, stretch, _⟩ := due
  rcases List.eq_nil_or_concat' more with rfl | ⟨more, last, rfl⟩
  · obtain ⟨rfl, ends⟩ := List.append_inj' shape rfl
    obtain rfl := (List.cons.inj ends).1
    exact stretch.idle _ List.mem_cons_self
  · rw [← List.cons_append, ← List.append_assoc] at shape
    obtain ⟨rfl, ends⟩ := List.append_inj' shape rfl
    obtain rfl := (List.cons.inj ends).1
    refine stretch.idle _ ?_
    rw [← List.cons_append, visits_concat, after_append]
    exact List.mem_append_right _ List.mem_cons_self

section

def suitcaseRule : LeftItemRule ℚ :=
  ofConfig
    { name := "left"
      priority := 1
      targetSources := ["cam0"]
      targetClasses := ["suitcase"]
      params := [("grace_period_sec", 1), ("item_owner_iou_threshold", 1 / 10)]
      strParams := [] }

def suitcase : Sighting ℚ :=
  ⟨"suitcase", [2 / 5, 2 / 5, 3 / 5, 3 / 5], 4, 9 / 10, []⟩

def hazyPerson : Sighting ℚ :=
  ⟨"person", [2 / 5, 2 / 5, 3 / 5, 3 / 5], 1, 3 / 10, []⟩

theorem exists_alert_iff_due_suitcase :
    suitcaseRule.Due confident 4 [⟨"cam0", 1, [], [suitcase]⟩] ⟨"cam0", 1000001, [], []⟩ := by
  refine (exists_alert_iff_due suitcaseRule (by decide +kernel) _ _ 4 ?_ ?_).mp
    (by decide +kernel)
  · simp
  · simp [UInt64.le_iff_toNat_le]

/-- A person that the detector is not sure of keeps no item, though the person moves. -/
theorem hazyPerson_not_owner :
    ¬ ∀ (rule : LeftItemRule ℚ) (events : List (RuleEvent ℚ)) (event : RuleEvent ℚ)
        (trackId : Int32), rule.validate = .ok () →
      (∀ call ∈ events ++ [event], call.timestamp ≠ 0) →
      ((events ++ [event]).Pairwise fun first second => first.timestamp ≤ second.timestamp) →
      ((∃ alert ∈ (rule.apply (rule.after {} events) event).1, alert.trackId = trackId) ↔
        rule.Due (fun _ => true) trackId events event) := by
  intro universal
  have law := universal suitcaseRule [⟨"cam0", 1, [], [suitcase]⟩]
    ⟨"cam0", 1000001, [], [suitcase, hazyPerson]⟩ 4 (by decide +kernel) (by simp)
    (by simp [UInt64.le_iff_toNat_le])
  have due := law.mp (by decide +kernel)
  exact due.idle.2 (by decide +kernel)

end

end LeftItemRule

end Iq9Pipeline.RuleProcess
