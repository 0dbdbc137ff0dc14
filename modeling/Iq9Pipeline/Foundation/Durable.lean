import Iq9Pipeline.Foundation.Machine
import Mathlib.Data.List.DropRight

/-!
A program whose state is written to a file as a whole after every change, in one step that
may fail, and read back when the program starts. The program may end at any time.
-/

namespace Foundation.Durable

structure Store (State Bytes Op : Type*) where
  first : State
  save : State → Bytes
  load : Bytes → Option State
  apply : State → Op → State

structure Host (State Bytes : Type*) where
  file : Option Bytes
  running : Option State

inductive Action (Op : Type*)
  | start (written : Bool)
  | apply (op : Op) (written : Bool)
  | stop

variable {State Bytes Op : Type*}

namespace Store

variable (store : Store State Bytes Op)

def step (host : Host State Bytes) : Action Op → Option (Host State Bytes)
  | .start written =>
      match host.file with
      | some bytes => some { host with running := store.load bytes }
      | none =>
          if written then some ⟨some (store.save store.first), some store.first⟩
          else some { host with running := none }
  | .apply op written =>
      host.running.map fun state =>
        { file := if written then some (store.save (store.apply state op)) else host.file
          running := some (store.apply state op) }
  | .stop => some { host with running := none }

def machine (host : Host State Bytes) : Machine (Host State Bytes) (Action Op) where
  start state := state = host
  step := store.step

def saved (host : Host State Bytes) : Option State :=
  host.file.bind store.load

def Asked (allowed : State → Op → Prop) (host : Host State Bytes) : Action Op → Prop
  | .apply op _ => ∀ state ∈ host.running, allowed state op
  | _ => True

section

variable {store : Store State Bytes Op} {allowed : State → Op → Prop} {host : Host State Bytes}
  {file : Option Bytes} {state : State}

theorem reachable_first (store : Store State Bytes Op) (allowed : State → Op → Prop) :
    (store.machine ⟨none, none⟩).ReachableUnder (Asked allowed)
      ⟨some (store.save store.first), some store.first⟩ :=
  have start : Asked allowed (⟨none, none⟩ : Host State Bytes) (.start true) := trivial
  .step (.start rfl) start rfl

theorem reachable_apply {op : Op}
    (reached : (store.machine host).ReachableUnder (Asked allowed) ⟨file, some state⟩)
    (permitted : allowed state op) (written : Bool) :
    (store.machine host).ReachableUnder (Asked allowed)
      ⟨if written then some (store.save (store.apply state op)) else file,
        some (store.apply state op)⟩ := by
  have asked : Asked allowed (⟨file, some state⟩ : Host State Bytes) (.apply op written) := by
    rintro _ ⟨⟩
    exact permitted
  exact reached.step asked rfl

theorem reachable_restart (store : Store State Bytes Op) (allowed : State → Op → Prop)
    (bytes : Bytes) (running : Option State) :
    (store.machine ⟨some bytes, running⟩).ReachableUnder (Asked allowed)
      ⟨some bytes, store.load bytes⟩ := by
  have stop : Asked allowed (⟨some bytes, running⟩ : Host State Bytes) .stop := trivial
  have start : Asked allowed (⟨some bytes, none⟩ : Host State Bytes) (.start true) := trivial
  exact .step (.step (.start rfl) stop rfl) start rfl

end

/-- A state that is written is read back, and operations extend what is there. -/
structure Lawful (valid : State → Prop) (allowed : State → Op → Prop)
    (extends' : State → State → Prop) : Prop where
  first : valid store.first
  loads : ∀ state, valid state → store.load (store.save state) = some state
  apply : ∀ state op, valid state → allowed state op → valid (store.apply state op)
  refl : ∀ state, extends' state state
  trans : ∀ state next last, extends' state next → extends' next last → extends' state last
  grows : ∀ state op, valid state → allowed state op → extends' state (store.apply state op)

structure Kept (valid : State → Prop) (extends' : State → State → Prop)
    (host : Host State Bytes) : Prop where
  written : ∀ bytes ∈ host.file, ∃ state, valid state ∧ bytes = store.save state
  running : ∀ state ∈ host.running, valid state ∧
    ∃ before, store.saved host = some before ∧ extends' before state

variable {store} {valid : State → Prop} {allowed : State → Op → Prop}
  {extends' : State → State → Prop} {host next : Host State Bytes}

theorem Lawful.saved_some (lawful : store.Lawful valid allowed extends') {state : State}
    (right : valid state) (running : Option State) :
    store.saved ⟨some (store.save state), running⟩ = some state :=
  lawful.loads state right

theorem Kept.stopped (kept : store.Kept valid extends' host) :
    store.Kept valid extends' { host with running := none } :=
  ⟨kept.written, nofun⟩

theorem Lawful.kept_save (lawful : store.Lawful valid allowed extends') {state : State}
    (right : valid state) : store.Kept valid extends' ⟨some (store.save state), some state⟩ := by
  constructor
  · rintro _ ⟨⟩
    exact ⟨state, right, rfl⟩
  · rintro _ ⟨⟩
    exact ⟨right, state, lawful.saved_some right _, lawful.refl state⟩

theorem Lawful.kept_step (lawful : store.Lawful valid allowed extends') {action : Action Op}
    (kept : store.Kept valid extends' host) (asked : Asked allowed host action)
    (stepped : store.step host action = some next) : store.Kept valid extends' next := by
  cases action with
  | start written =>
      simp only [step] at stepped
      split at stepped
      · rename_i bytes present
        obtain rfl := Option.some.inj stepped
        obtain ⟨state, right, rfl⟩ := kept.written bytes present
        have loaded := lawful.loads state right
        refine ⟨kept.written, ?_⟩
        rintro read same
        obtain rfl : state = read := by simpa [loaded] using same
        refine ⟨right, state, ?_, lawful.refl state⟩
        rw [saved, present]
        exact loaded
      · split at stepped
        · obtain rfl := Option.some.inj stepped
          exact lawful.kept_save lawful.first
        · obtain rfl := Option.some.inj stepped
          exact kept.stopped
  | apply op written =>
      obtain ⟨state, present, rfl⟩ := Option.map_eq_some_iff.mp stepped
      obtain ⟨right, before, restored, extended⟩ := kept.running state present
      have permitted := asked state present
      have right' := lawful.apply state op right permitted
      cases written with
      | true => exact lawful.kept_save right'
      | false =>
          refine ⟨kept.written, ?_⟩
          rintro _ ⟨⟩
          exact ⟨right', before, restored,
            lawful.trans _ _ _ extended (lawful.grows state op right permitted)⟩
  | stop =>
      obtain rfl := Option.some.inj stepped
      exact kept.stopped

/-- What is saved is only ever replaced by what extends it. -/
theorem Lawful.saved_step (lawful : store.Lawful valid allowed extends') {action : Action Op}
    (kept : store.Kept valid extends' host) (asked : Asked allowed host action)
    (stepped : store.step host action = some next) {state : State}
    (restored : store.saved host = some state) :
    ∃ later, store.saved next = some later ∧ extends' state later := by
  cases action with
  | start written =>
      simp only [step] at stepped
      split at stepped
      · obtain rfl := Option.some.inj stepped
        exact ⟨state, restored, lawful.refl state⟩
      · rename_i absent
        simp [saved, absent] at restored
  | apply op written =>
      obtain ⟨current, present, rfl⟩ := Option.map_eq_some_iff.mp stepped
      obtain ⟨right, before, restored', extended⟩ := kept.running current present
      obtain rfl : before = state := by simpa [restored] using restored'.symm
      have permitted := asked current present
      cases written with
      | true =>
          exact ⟨_, lawful.saved_some (lawful.apply current op right permitted) _,
            lawful.trans _ _ _ extended (lawful.grows current op right permitted)⟩
      | false => exact ⟨before, restored, lawful.refl before⟩
  | stop =>
      obtain rfl := Option.some.inj stepped
      exact ⟨state, restored, lawful.refl state⟩

theorem kept_nothing (store : Store State Bytes Op) :
    store.Kept valid extends' (⟨none, none⟩ : Host State Bytes) :=
  ⟨nofun, nofun⟩

theorem Lawful.kept_run (lawful : store.Lawful valid allowed extends')
    (kept : store.Kept valid extends' host)
    (reachable : (store.machine host).ReachableUnder (Asked allowed) next) :
    store.Kept valid extends' next := by
  apply Machine.ReachableUnder.invariant (store.Kept valid extends') _ _ reachable
  · rintro _ rfl
    exact kept
  · exact fun _ _ _ _ held asked stepped => lawful.kept_step held asked stepped

theorem Lawful.saved_run (lawful : store.Lawful valid allowed extends')
    (kept : store.Kept valid extends' host)
    (reachable : (store.machine host).ReachableUnder (Asked allowed) next) {state : State}
    (restored : store.saved host = some state) :
    ∃ later, store.saved next = some later ∧ extends' state later := by
  induction reachable with
  | start begun => exact ⟨state, begun ▸ restored, lawful.refl state⟩
  | step earlier asked stepped ih =>
      obtain ⟨middle, found, extended⟩ := ih
      obtain ⟨later, found', extended'⟩ :=
        lawful.saved_step (lawful.kept_run kept earlier) asked stepped found
      exact ⟨later, found', lawful.trans _ _ _ extended extended'⟩

def session (store : Store State Bytes Op) (host : Host State Bytes) (events : List (Op × Bool)) :
    Option (Host State Bytes) :=
  events.foldlM (fun host event => store.step host (.apply event.1 event.2)) host

/-- The operations up to the last of which the state was written. -/
def survivors (events : List (Op × Bool)) : List (Op × Bool) :=
  events.rdropWhile fun event => !event.2

def AllowedAll (store : Store State Bytes Op) (allowed : State → Op → Prop) (state : State) :
    List (Op × Bool) → Prop
  | [] => True
  | event :: rest =>
      allowed state event.1 ∧ AllowedAll store allowed (store.apply state event.1) rest

def applyAll (store : Store State Bytes Op) (state : State) (events : List (Op × Bool)) : State :=
  events.foldl (fun state event => store.apply state event.1) state

theorem allowedAll_append {state : State} {events more : List (Op × Bool)} :
    AllowedAll store allowed state (events ++ more) ↔
      AllowedAll store allowed state events ∧
        AllowedAll store allowed (store.applyAll state events) more := by
  induction events generalizing state with
  | nil => exact ⟨fun all => ⟨trivial, all⟩, And.right⟩
  | cons event rest ih =>
      rw [List.cons_append, AllowedAll, AllowedAll, ih, and_assoc]
      rfl

theorem AllowedAll.before {state : State} {events first : List (Op × Bool)}
    (all : AllowedAll store allowed state events) (earlier : first <+: events) :
    AllowedAll store allowed state first := by
  obtain ⟨rest, rfl⟩ := earlier
  exact (allowedAll_append.mp all).1

theorem Lawful.valid_applyAll (lawful : store.Lawful valid allowed extends') {state : State}
    {events : List (Op × Bool)} (right : valid state)
    (permitted : AllowedAll store allowed state events) :
    valid (store.applyAll state events) := by
  induction events generalizing state with
  | nil => exact right
  | cons event rest ih => exact ih (lawful.apply state event.1 right permitted.1) permitted.2

/-- A session that begins with what is saved leaves saved what its survivors make of that. -/
theorem Lawful.session_saved (lawful : store.Lawful valid allowed extends') {state : State}
    {file : Option Bytes} (right : valid state) (restored : file.bind store.load = some state)
    {events : List (Op × Bool)} (permitted : AllowedAll store allowed state events) :
    ∃ next, store.session ⟨file, some state⟩ events = some next ∧
      next.running = some (store.applyAll state events) ∧
      store.saved next = some (store.applyAll state (survivors events)) := by
  induction events using List.reverseRecOn with
  | nil => exact ⟨_, rfl, rfl, restored⟩
  | append_singleton events event ih =>
      have before := permitted.before (List.prefix_append _ _)
      obtain ⟨middle, ran, running, saved⟩ := ih before
      have valid' := lawful.valid_applyAll right permitted
      have applied : store.applyAll state (events ++ [event]) =
          store.apply (store.applyAll state events) event.1 := by
        rw [applyAll, List.foldl_append]
        rfl
      obtain ⟨op, written⟩ := event
      refine ⟨⟨if written then some (store.save (store.applyAll state (events ++ [(op, written)])))
        else middle.file, some (store.applyAll state (events ++ [(op, written)]))⟩, ?_, rfl, ?_⟩
      · rw [session, List.foldlM_append]
        change (store.session _ events).bind _ = _
        rw [ran, applied]
        simp [step, running]
      · cases written with
        | true =>
            have survives : survivors (events ++ [(op, true)]) = events ++ [(op, true)] :=
              List.rdropWhile_concat_neg _ _ _ (by simp)
            rw [survives]
            exact lawful.saved_some valid' _
        | false =>
            have lost : survivors (events ++ [(op, false)]) = survivors events :=
              List.rdropWhile_concat_pos _ _ _ (by simp)
            rw [lost]
            exact saved

theorem survivors_prefix (events : List (Op × Bool)) : survivors events <+: events :=
  List.rdropWhile_prefix _ _

theorem lt_length_survivors {events : List (Op × Bool)} {position : Nat} :
    position < (survivors events).length ↔
      ∃ later op, position ≤ later ∧ events[later]? = some (op, true) := by
  induction events using List.reverseRecOn with
  | nil => simp [survivors]
  | append_singleton events event ih =>
      obtain ⟨op, written⟩ := event
      cases written with
      | true =>
          have survives : survivors (events ++ [(op, true)]) = events ++ [(op, true)] :=
            List.rdropWhile_concat_neg _ _ _ (by simp)
          rw [survives]
          constructor
          · intro inside
            rw [List.length_append, List.length_singleton] at inside
            exact ⟨events.length, op, by omega, by simp⟩
          · rintro ⟨later, _, after, found⟩
            have := (List.getElem?_eq_some_iff.mp found).1
            omega
      | false =>
          have lost : survivors (events ++ [(op, false)]) = survivors events :=
            List.rdropWhile_concat_pos _ _ _ (by simp)
          rw [lost, ih]
          refine exists_congr fun later => exists_congr fun op' => and_congr_right fun _ => ?_
          rcases Nat.lt_trichotomy later events.length with inside | rfl | outside
          · rw [List.getElem?_append_left inside]
          · simp
          · rw [List.getElem?_eq_none (by omega), List.getElem?_eq_none (by simp; omega)]

end Store

end Foundation.Durable
