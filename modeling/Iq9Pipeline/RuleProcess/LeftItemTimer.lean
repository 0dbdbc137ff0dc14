import Iq9Pipeline.RuleProcess.LeftItemSteps

/-!
The timer of an item over a run of the left-item rule. It starts with the first call
that finds the item unowned, a removal notice restarts it, and the call at which the
grace period has run out proposes the alert and latches it.
-/

namespace Iq9Pipeline.RuleProcess

variable {Number : Type}

structure Timer where
  startTs : UInt64 := 0
  alerted : Bool := false
deriving DecidableEq

def ItemState.timer (item : ItemState Number) : Timer :=
  ⟨item.startTs, item.alerted⟩

def LeftItemState.timer (state : LeftItemState Number) (trackId : Int32) : Timer :=
  (state.itemStates[trackId]?.map ItemState.timer).getD {}

def Timer.tick (gracePeriodUs now : UInt64) (timer : Timer) : Timer :=
  let startTs := if timer.startTs = 0 then now else timer.startTs
  { startTs := startTs, alerted := timer.alerted || decide (gracePeriodUs ≤ now - startTs) }

structure Visit (Number : Type) where
  event : RuleEvent Number
  state : LeftItemState Number

/-- When the grace period runs out, after it began at `start` (`none` once it has run
out). Each entry is the time of a call and whether the call restarts the timer. -/
def runsOut (gracePeriodUs : UInt64) : Option UInt64 → List (UInt64 × Bool) → List UInt64
  | _, [] => []
  | _, (now, true) :: calls => runsOut gracePeriodUs (some now) calls
  | none, (_, false) :: calls => runsOut gracePeriodUs none calls
  | some start, (now, false) :: calls =>
      if start.toNat + gracePeriodUs.toNat ≤ now.toNat then now :: runsOut gracePeriodUs none calls
      else runsOut gracePeriodUs (some start) calls

theorem exists_runsOut {gracePeriodUs start : UInt64} {calls : List (UInt64 × Bool)}
    (kept : ∀ call ∈ calls, call.2 = false)
    (reached : ∃ call ∈ calls, start.toNat + gracePeriodUs.toNat ≤ call.1.toNat) :
    ∃ due ∈ runsOut gracePeriodUs (some start) calls,
      start.toNat + gracePeriodUs.toNat ≤ due.toNat := by
  induction calls with
  | nil => simp at reached
  | cons call calls ih =>
      obtain ⟨now, restarts⟩ := call
      rw [List.forall_mem_cons] at kept
      obtain ⟨rfl, kept⟩ := kept
      simp only [runsOut]
      split
      · rename_i out
        exact ⟨now, List.mem_cons_self, out⟩
      · rename_i early
        obtain ⟨call, member, late⟩ := reached
        refine ih kept ⟨call, ?_, late⟩
        rcases List.mem_cons.mp member with rfl | later
        · exact absurd late early
        · exact later

namespace Timer

def Counts (timer : Timer) : Option UInt64 → Prop
  | some start => timer = ⟨start, false⟩ ∧ start ≠ 0
  | none => timer.alerted = true

variable {gracePeriodUs now start : UInt64} {timer : Timer}

theorem tick_fresh (grace : gracePeriodUs ≠ 0) :
    tick gracePeriodUs now {} = ⟨now, false⟩ := by
  simp [tick, grace]

theorem tick_counting (begun : start ≠ 0) (later : start ≤ now) :
    tick gracePeriodUs now ⟨start, false⟩ =
      ⟨start, decide (start.toNat + gracePeriodUs.toNat ≤ now.toNat)⟩ := by
  have order := UInt64.le_iff_toNat_le.mp later
  have elapsed : gracePeriodUs ≤ now - start ↔
      start.toNat + gracePeriodUs.toNat ≤ now.toNat := by
    rw [UInt64.le_iff_toNat_le, UInt64.toNat_sub_of_le _ _ later]
    omega
  simp [tick, begun, elapsed]

end Timer

variable [Scalar Number]

namespace LeftItemRule

variable (rule : LeftItemRule Number)

def after (state : LeftItemState Number) (events : List (RuleEvent Number)) :
    LeftItemState Number :=
  events.foldl (fun state event => (rule.apply state event).2) state

def visits (state : LeftItemState Number) : List (RuleEvent Number) → List (Visit Number)
  | [] => []
  | event :: events => ⟨event, state⟩ :: visits (rule.apply state event).2 events

def Unowned (trackId : Int32) (visit : Visit Number) : Prop :=
  ∃ item, (rule.refreshed visit.state visit.event).itemStates[trackId]? = some item ∧
    rule.hasOwner (rule.zones visit.state visit.event) item.bbox = false

instance (trackId : Int32) (visit : Visit Number) : Decidable (rule.Unowned trackId visit) :=
  decidable_of_iff
    ((rule.refreshed visit.state visit.event).itemStates[trackId]?.any (fun item =>
      !rule.hasOwner (rule.zones visit.state visit.event) item.bbox) = true)
    (by simp [Unowned, Option.any_eq_true])

def erases (trackId : Int32) (visit : Visit Number) : Bool :=
  (rule.erasedItems visit.state visit.event.removedTrackIds).contains trackId

def raises (trackId : Int32) (visit : Visit Number) : Bool :=
  (rule.apply visit.state visit.event).1.any fun alert => alert.trackId = trackId

def calls (trackId : Int32) (visits : List (Visit Number)) : List (UInt64 × Bool) :=
  visits.map fun visit => (visit.event.timestamp, rule.erases trackId visit)

theorem visits_append (state : LeftItemState Number)
    (events more : List (RuleEvent Number)) :
    rule.visits state (events ++ more) =
      rule.visits state events ++ rule.visits (rule.after state events) more := by
  induction events generalizing state with
  | nil => rfl
  | cons event events ih => simp [visits, ih, after]

variable {rule}

theorem refreshed_timer (trackId : Int32) (visit : Visit Number) :
    (rule.refreshed visit.state visit.event).timer trackId =
      if rule.erases trackId visit then {} else visit.state.timer trackId := by
  have lookup := rule.refreshed_lookup visit.state visit.event trackId
  simp only [LeftItemState.timer, lookup, erases, List.contains_eq_mem, decide_eq_true_eq]
  split
  · by_cases erased : trackId ∈ rule.erasedItems visit.state visit.event.removedTrackIds
    · simp [erased, ItemState.timer]
    · simp only [erased, if_false]
      cases visit.state.itemStates[trackId]? <;> rfl
  · split <;> rfl

theorem timer_of_unowned {trackId : Int32} {visit : Visit Number}
    (unowned : rule.Unowned trackId visit) :
    (rule.apply visit.state visit.event).2.timer trackId =
      ((rule.refreshed visit.state visit.event).timer trackId).tick rule.gracePeriodUs
        visit.event.timestamp := by
  obtain ⟨item, found, free⟩ := unowned
  simp only [LeftItemState.timer, rule.apply_lookup, found, rule.decision_of_unowned free,
    Option.map_some, Option.getD_some]
  rfl

theorem timer_of_not_unowned {trackId : Int32} {visit : Visit Number}
    (settled : ¬ rule.Unowned trackId visit) :
    (rule.apply visit.state visit.event).2.timer trackId = {} := by
  simp only [LeftItemState.timer, rule.apply_lookup]
  cases found : (rule.refreshed visit.state visit.event).itemStates[trackId]? with
  | none => rfl
  | some item =>
      have owned : rule.hasOwner (rule.zones visit.state visit.event) item.bbox = true := by
        by_contra free
        exact settled ⟨item, found, by simpa using free⟩
      simp [rule.decision_of_owned owned, Decision.settle, ItemState.timer]

theorem raises_of_unowned {trackId : Int32} {visit : Visit Number}
    (unowned : rule.Unowned trackId visit) :
    rule.raises trackId visit = true ↔
      ((rule.refreshed visit.state visit.event).timer trackId).alerted = false ∧
        ((rule.apply visit.state visit.event).2.timer trackId).alerted = true := by
  obtain ⟨item, found, free⟩ := unowned
  simp only [raises, List.any_eq_true, decide_eq_true_eq, rule.mem_apply, LeftItemState.timer,
    rule.apply_lookup, found, rule.decision_of_unowned free, Decision.settle, ItemState.timer,
    Option.map_some, Option.getD_some]
  constructor
  · rintro ⟨alert, ⟨other, item', found', raised⟩, named⟩
    have built := rule.eq_itemAlert_of_decision raised
    rw [built, itemAlert_trackId] at named
    dsimp only at named
    subst named
    rw [found, Option.some.injEq] at found'
    subst found'
    rw [rule.decision_of_unowned free] at raised
    simp only [Option.ite_none_right_eq_some, Bool.and_eq_true, Bool.not_eq_true'] at raised
    simp [raised.1.1, raised.1.2]
  · rintro ⟨silent, latched⟩
    refine ⟨rule.itemAlert visit.event trackId, ⟨trackId, item, found, ?_⟩,
      rule.itemAlert_trackId visit.event trackId⟩
    rw [silent, Bool.false_or] at latched
    simp [rule.decision_of_unowned free, silent, latched]

def raisedAt (rule : LeftItemRule Number) (trackId : Int32) (visits : List (Visit Number)) :
    List UInt64 :=
  (visits.filter fun visit => rule.raises trackId visit).map fun visit => visit.event.timestamp

/-- Over calls that all find the item unowned, its alert is proposed when its grace
period runs out. -/
theorem raisedAt_eq_runsOut {trackId : Int32} (grace : rule.gracePeriodUs ≠ 0)
    {events : List (RuleEvent Number)} {state : LeftItemState Number} {counting : Option UInt64}
    (counts : (state.timer trackId).Counts counting)
    (unowned : ∀ visit ∈ rule.visits state events, rule.Unowned trackId visit)
    (positive : ∀ event ∈ events, event.timestamp ≠ 0)
    (ordered : events.Pairwise fun first second => first.timestamp ≤ second.timestamp)
    (later : ∀ start, counting = some start → ∀ event ∈ events, start ≤ event.timestamp) :
    rule.raisedAt trackId (rule.visits state events) =
      runsOut rule.gracePeriodUs counting (rule.calls trackId (rule.visits state events)) := by
  induction events generalizing state counting with
  | nil => rfl
  | cons event events ih =>
      rw [visits, List.forall_mem_cons] at unowned
      rw [List.forall_mem_cons] at positive
      rw [List.pairwise_cons] at ordered
      have ticked := timer_of_unowned unowned.1
      have raised := raises_of_unowned unowned.1
      rw [refreshed_timer] at ticked raised
      rw [ticked] at raised
      dsimp only at ticked raised
      have rest := fun counting counts later =>
        @ih (rule.apply state event).2 counting counts unowned.2 positive.2 ordered.2 later
      rw [ticked] at rest
      simp only [raisedAt, visits, calls, List.filter_cons, List.map_cons] at rest ⊢
      cases erased : rule.erases trackId ⟨event, state⟩ with
      | true =>
          rw [if_pos erased, Timer.tick_fresh grace] at raised rest
          have silent : rule.raises trackId ⟨event, state⟩ = false := by simpa using raised
          simp only [silent, Bool.false_eq_true, if_false, runsOut]
          refine rest (some event.timestamp) ⟨rfl, positive.1⟩ ?_
          rintro _ ⟨⟩
          exact ordered.1
      | false =>
          have kept : ¬ rule.erases trackId ⟨event, state⟩ = true := by simp [erased]
          rw [if_neg kept] at raised rest
          cases counting with
          | none =>
              have alerted : (state.timer trackId).alerted = true := counts
              have silent : rule.raises trackId ⟨event, state⟩ = false := by
                simpa [alerted] using raised
              simp only [silent, Bool.false_eq_true, if_false, runsOut]
              exact rest none (by simp [Timer.Counts, Timer.tick, alerted]) (by simp)
          | some start =>
              obtain ⟨counting, begun⟩ := counts
              have since := later start rfl
              rw [List.forall_mem_cons] at since
              rw [counting, Timer.tick_counting begun since.1] at raised rest
              simp only [runsOut]
              by_cases out : start.toNat + rule.gracePeriodUs.toNat ≤ event.timestamp.toNat
              · have rings : rule.raises trackId ⟨event, state⟩ = true := by simp [raised, out]
                simp only [rings, out, if_true, List.map_cons, List.cons.injEq, true_and]
                exact rest none (by simp [Timer.Counts, out]) (by simp)
              · have silent : rule.raises trackId ⟨event, state⟩ = false := by
                  simpa [out] using raised
                simp only [silent, out, Bool.false_eq_true, if_false]
                refine rest (some start) ⟨by simp [out], begun⟩ ?_
                rintro _ ⟨⟩
                exact since.2

theorem raisedAt_of_fresh {trackId : Int32} (grace : rule.gracePeriodUs ≠ 0)
    {first : RuleEvent Number} {events : List (RuleEvent Number)} {state : LeftItemState Number}
    (fresh : state.timer trackId = {})
    (unowned : ∀ visit ∈ rule.visits state (first :: events), rule.Unowned trackId visit)
    (positive : ∀ event ∈ first :: events, event.timestamp ≠ 0)
    (ordered : (first :: events).Pairwise fun first second =>
      first.timestamp ≤ second.timestamp) :
    rule.raisedAt trackId (rule.visits state (first :: events)) =
      runsOut rule.gracePeriodUs (some first.timestamp)
        (rule.calls trackId (rule.visits state (first :: events))) := by
  rw [visits, List.forall_mem_cons] at unowned
  rw [List.forall_mem_cons] at positive
  rw [List.pairwise_cons] at ordered
  have ticked := timer_of_unowned unowned.1
  have raised := raises_of_unowned unowned.1
  rw [refreshed_timer, fresh, ite_self] at ticked raised
  rw [ticked, Timer.tick_fresh grace] at raised
  have silent : rule.raises trackId ⟨first, state⟩ = false := by simpa using raised
  have counts : ((rule.apply state first).2.timer trackId).Counts (some first.timestamp) := by
    rw [ticked]
    exact ⟨Timer.tick_fresh grace, positive.1⟩
  have rest := raisedAt_eq_runsOut grace counts unowned.2 positive.2 ordered.2 (by
    rintro _ ⟨⟩
    exact ordered.1)
  have started : ¬ first.timestamp.toNat + rule.gracePeriodUs.toNat ≤ first.timestamp.toNat := by
    have positive := UInt64.lt_iff_toNat_lt.mp (UInt64.pos_iff_ne_zero.mpr grace)
    rw [UInt64.toNat_zero] at positive
    omega
  simp only [raisedAt, calls] at rest
  simp only [raisedAt, visits, calls, List.filter_cons, silent, Bool.false_eq_true, if_false,
    rest, List.map_cons]
  cases rule.erases trackId ⟨first, state⟩ with
  | true => rfl
  | false => simp only [runsOut, started, if_false]

theorem timer_after_of_not_unowned {trackId : Int32} {events : List (RuleEvent Number)}
    {state : LeftItemState Number} (started : events = [] → state.timer trackId = {})
    (settled : ∀ visit, (rule.visits state events).getLast? = some visit →
      ¬ rule.Unowned trackId visit) : (rule.after state events).timer trackId = {} := by
  induction events generalizing state with
  | nil => exact started rfl
  | cons event events ih =>
      rw [after, List.foldl_cons]
      refine ih ?_ ?_
      · rintro rfl
        have free := timer_of_not_unowned (settled ⟨event, state⟩ (by simp [visits]))
        exact free
      · intro visit last
        refine settled visit ?_
        simp [visits, List.getLast?_cons, last]

end LeftItemRule

end Iq9Pipeline.RuleProcess
