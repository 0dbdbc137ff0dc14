import Iq9Pipeline.Foundation.Machine
import Mathlib.Data.Multiset.AddSub
import Mathlib.Data.Multiset.UnionInter

/-!
Handles that a program acquires from a system and has to release. A program is judged by the
calls it makes: each release must be of a handle that is live then, and what is live in the end
is what its objects own. An object that is built in stages gives back on a failure what the
stages before it acquired.
-/

namespace Foundation

variable {Handle : Type*} [DecidableEq Handle]

inductive HandleCall (Handle : Type*)
  | acquire (handle : Handle)
  | release (handle : Handle)
deriving DecidableEq

namespace HandleCall

def liveAfter (live : Multiset Handle) : List (HandleCall Handle) → Multiset Handle
  | [] => live
  | .acquire handle :: rest => liveAfter (handle ::ₘ live) rest
  | .release handle :: rest => liveAfter (live.erase handle) rest

def Proper (live : Multiset Handle) : List (HandleCall Handle) → Prop
  | [] => True
  | .acquire handle :: rest => Proper (handle ::ₘ live) rest
  | .release handle :: rest => handle ∈ live ∧ Proper (live.erase handle) rest

def Answered (live : Multiset Handle) : List (HandleCall Handle) → Prop
  | [] => True
  | .acquire handle :: rest => handle ∉ live ∧ Answered (handle ::ₘ live) rest
  | .release handle :: rest => Answered (live.erase handle) rest

instance (live : Multiset Handle) (calls : List (HandleCall Handle)) :
    Decidable (Answered live calls) := by
  induction calls generalizing live with
  | nil => exact .isTrue trivial
  | cons call rest ih =>
      cases call with
      | acquire handle =>
          have := ih (handle ::ₘ live)
          exact inferInstanceAs (Decidable (_ ∧ _))
      | release handle => exact ih (live.erase handle)

theorem liveAfter_append (live : Multiset Handle) (first second : List (HandleCall Handle)) :
    liveAfter live (first ++ second) = liveAfter (liveAfter live first) second := by
  induction first generalizing live with
  | nil => rfl
  | cons call rest ih => cases call <;> exact ih _

theorem proper_append {live : Multiset Handle} {first second : List (HandleCall Handle)} :
    Proper live (first ++ second) ↔ Proper live first ∧ Proper (liveAfter live first) second := by
  induction first generalizing live with
  | nil => exact ⟨fun proper => ⟨trivial, proper⟩, And.right⟩
  | cons call rest ih =>
      cases call with
      | acquire handle => exact ih
      | release handle => exact (and_congr Iff.rfl ih).trans and_assoc.symm

/-- Where the system gives out no live handle again, no two owners share one. -/
theorem Answered.nodup {live : Multiset Handle} {calls : List (HandleCall Handle)}
    (answered : Answered live calls) (distinct : live.Nodup) : (liveAfter live calls).Nodup := by
  induction calls generalizing live with
  | nil => exact distinct
  | cons call rest ih =>
      cases call with
      | acquire handle => exact ih answered.2 (Multiset.nodup_cons.mpr ⟨answered.1, distinct⟩)
      | release handle => exact ih answered (distinct.erase handle)

end HandleCall

open HandleCall

/-- Whatever else is live, the calls turn the handles `before` into `after`. -/
structure Transfers (calls : List (HandleCall Handle)) (before after : Multiset Handle) :
    Prop where
  proper : ∀ frame, Proper (before + frame) calls
  left : ∀ frame, liveAfter (before + frame) calls = after + frame

namespace Transfers

theorem nil (owned : Multiset Handle) : Transfers [] owned owned :=
  ⟨fun _ => trivial, fun _ => rfl⟩

theorem acquire (handle : Handle) (owned : Multiset Handle) :
    Transfers [.acquire handle] owned (handle ::ₘ owned) :=
  ⟨fun _ => trivial, fun frame => (Multiset.cons_add handle owned frame).symm⟩

theorem release (handle : Handle) (owned : Multiset Handle) :
    Transfers [.release handle] (handle ::ₘ owned) owned := by
  constructor
  · intro frame
    exact ⟨Multiset.mem_add.mpr (.inl (Multiset.mem_cons_self handle owned)), trivial⟩
  · intro frame
    rw [liveAfter, liveAfter, Multiset.cons_add, Multiset.erase_cons_head]

theorem release_under (first handle : Handle) (owned : Multiset Handle) :
    Transfers [.release handle] (first ::ₘ handle ::ₘ owned) (first ::ₘ owned) := by
  rw [Multiset.cons_swap]
  exact release handle (first ::ₘ owned)

theorem append {first second : List (HandleCall Handle)} {before middle after : Multiset Handle}
    (early : Transfers first before middle) (late : Transfers second middle after) :
    Transfers (first ++ second) before after := by
  constructor
  · intro frame
    rw [proper_append, early.left]
    exact ⟨early.proper frame, late.proper frame⟩
  · intro frame
    rw [liveAfter_append, early.left, late.left]

theorem beside {calls : List (HandleCall Handle)} {before after : Multiset Handle}
    (transfers : Transfers calls before after) (others : Multiset Handle) :
    Transfers calls (before + others) (after + others) := by
  constructor
  · intro frame
    rw [Multiset.add_assoc]
    exact transfers.proper (others + frame)
  · intro frame
    rw [Multiset.add_assoc, Multiset.add_assoc]
    exact transfers.left (others + frame)

theorem both {first second : List (HandleCall Handle)} {early early' late late' : Multiset Handle}
    (one : Transfers first early early') (other : Transfers second late late') :
    Transfers (first ++ second) (early + late) (early' + late') := by
  have behind := other.beside early'
  rw [Multiset.add_comm late, Multiset.add_comm late'] at behind
  exact (one.beside late).append behind

theorem clear {first second : List (HandleCall Handle)} {early late : Multiset Handle}
    (clears : Transfers first early 0) (others : Transfers second late 0) :
    Transfers (first ++ second) (early + late) 0 :=
  clears.both others

theorem whole {calls : List (HandleCall Handle)} {owned : Multiset Handle}
    (transfers : Transfers calls 0 owned) : Proper 0 calls ∧ liveAfter 0 calls = owned := by
  have proper := transfers.proper 0
  have left := transfers.left 0
  rw [Multiset.add_zero] at proper left
  rw [Multiset.add_zero] at left
  exact ⟨proper, left⟩

end Transfers

section

variable {State Label : Type*} (calls : State → List (HandleCall Handle))
  (owned : State → Multiset Handle)

/-- The calls of a step turn what is owned before into what is owned afterwards. -/
def Accounts (state next : State) : Prop :=
  ∃ more, calls next = calls state ++ more ∧ Transfers more (owned state) (owned next)

variable {calls owned} {state next : State}

theorem accounts_silent (same : calls next = calls state) (kept : owned next = owned state) :
    Accounts calls owned state next :=
  ⟨[], by rw [same, List.append_nil], kept ▸ Transfers.nil _⟩

/-- A program whose every step accounts for its calls, wherever an invariant holds, has made in
every run the calls that lead from nothing to what it owns. -/
theorem Machine.ReachableUnder.transfers {machine : Machine State Label}
    {allowed : State → Label → Prop} (holds : State → Prop)
    (started : ∀ state, machine.start state →
      holds state ∧ calls state = [] ∧ owned state = 0)
    (accounts : ∀ state label next, holds state → allowed state label →
      machine.step state label = some next → holds next ∧ Accounts calls owned state next)
    (reachable : machine.ReachableUnder allowed state) :
    Transfers (calls state) 0 (owned state) := by
  have kept : holds state ∧ Transfers (calls state) 0 (owned state) := by
    apply Machine.ReachableUnder.invariant
      (fun state => holds state ∧ Transfers (calls state) 0 (owned state)) _ _ reachable
    · intro state begun
      obtain ⟨holding, silent, nothing⟩ := started state begun
      rw [silent, nothing]
      exact ⟨holding, Transfers.nil 0⟩
    · rintro state label next _ ⟨holding, earlier⟩ permitted stepped
      obtain ⟨still, more, appended, transfers⟩ :=
        accounts state label next holding permitted stepped
      rw [appended]
      exact ⟨still, earlier.append transfers⟩
  exact kept.2

theorem Machine.Reachable.transfers {machine : Machine State Label}
    (started : ∀ state, machine.start state → calls state = [] ∧ owned state = 0)
    (accounts : ∀ state label next, machine.step state label = some next →
      Accounts calls owned state next)
    (reachable : machine.Reachable state) : Transfers (calls state) 0 (owned state) :=
  Machine.ReachableUnder.transfers (fun _ => True)
    (fun state begun => ⟨trivial, started state begun⟩)
    (fun state label next _ _ stepped => ⟨trivial, accounts state label next stepped⟩) reachable

end

structure Staged (Object Handle : Type*) where
  object : Object
  calls : List (HandleCall Handle)
  ok : Bool

namespace Staged

variable {Object : Type*}

def check (ok : Bool) (object : Object) : Staged Object Handle :=
  ⟨object, [], ok⟩

def obtain (answer : Option Nat) (handle : Nat → Handle) (set : Nat → Object) (object : Object) :
    Staged Object Handle :=
  match answer with
  | none => ⟨object, [], false⟩
  | some id => ⟨set id, [.acquire (handle id)], true⟩

def andThen (staged : Staged Object Handle) (next : Object → Staged Object Handle) :
    Staged Object Handle :=
  if staged.ok then
    ⟨(next staged.object).object, staged.calls ++ (next staged.object).calls,
      (next staged.object).ok⟩
  else staged

def orElse (staged : Staged Object Handle) (cleanup : Object → Staged Object Handle) :
    Staged Object Handle :=
  if staged.ok then staged
  else ⟨(cleanup staged.object).object, staged.calls ++ (cleanup staged.object).calls, false⟩

def inside {Part : Type*} (staged : Staged Part Handle) (set : Part → Object) :
    Staged Object Handle :=
  ⟨set staged.object, staged.calls, staged.ok⟩

def tolerate (staged : Staged Object Handle) : Staged Object Handle :=
  { staged with ok := true }

omit [DecidableEq Handle] in
@[simp] theorem check_ok (ok : Bool) (object : Object) :
    (check ok object : Staged Object Handle).ok = ok := rfl

omit [DecidableEq Handle] in
@[simp] theorem check_object (ok : Bool) (object : Object) :
    (check ok object : Staged Object Handle).object = object := rfl

omit [DecidableEq Handle] in
@[simp] theorem obtain_ok (answer : Option Nat) (handle : Nat → Handle) (set : Nat → Object)
    (object : Object) : (obtain answer handle set object).ok = answer.isSome := by
  cases answer <;> rfl

omit [DecidableEq Handle] in
@[simp] theorem andThen_ok (staged : Staged Object Handle)
    (next : Object → Staged Object Handle) :
    (staged.andThen next).ok = (staged.ok && (next staged.object).ok) := by
  cases succeeded : staged.ok <;> simp [andThen, succeeded]

omit [DecidableEq Handle] in
theorem andThen_object {staged : Staged Object Handle} (succeeded : staged.ok = true)
    (next : Object → Staged Object Handle) :
    (staged.andThen next).object = (next staged.object).object := by
  rw [andThen, if_pos succeeded]

omit [DecidableEq Handle] in
@[simp] theorem orElse_ok (staged : Staged Object Handle)
    (cleanup : Object → Staged Object Handle) : (staged.orElse cleanup).ok = staged.ok := by
  cases succeeded : staged.ok <;> simp [orElse, succeeded]

omit [DecidableEq Handle] in
@[simp] theorem inside_ok {Part : Type*} (staged : Staged Part Handle) (set : Part → Object) :
    (staged.inside set).ok = staged.ok := rfl

/-- The calls of a stage account for what its object owns afterwards. -/
def Keeps (owned : Object → Multiset Handle) (before : Multiset Handle)
    (staged : Staged Object Handle) : Prop :=
  Transfers staged.calls before (owned staged.object)

variable {owned : Object → Multiset Handle} {before : Multiset Handle} {object : Object}
  {next : Object → Staged Object Handle}

theorem Keeps.andThen {staged : Staged Object Handle} (first : staged.Keeps owned before)
    (later : staged.ok = true → (next staged.object).Keeps owned (owned staged.object)) :
    (staged.andThen next).Keeps owned before := by
  rw [Staged.andThen]
  split
  · rename_i succeeded
    exact first.append (later succeeded)
  · exact first

theorem keeps_check (ok : Bool) : (check ok object).Keeps owned (owned object) :=
  Transfers.nil _

theorem keeps_checkThen {ok : Bool} (later : (next object).Keeps owned (owned object)) :
    ((check ok object).andThen next).Keeps owned (owned object) :=
  (keeps_check ok).andThen fun _ => later

theorem Keeps.inside {Part : Type*} {staged : Staged Part Handle} {set : Part → Object}
    {ownedPart : Part → Multiset Handle} {others : Multiset Handle} {part : Part}
    (keeps : staged.Keeps ownedPart (ownedPart part))
    (splits : ∀ part, owned (set part) = ownedPart part + others) :
    (staged.inside set).Keeps owned (owned (set part)) := by
  rw [Keeps, Staged.inside, splits, splits]
  exact keeps.beside others

theorem Keeps.tolerate {staged : Staged Object Handle} (keeps : staged.Keeps owned before) :
    staged.tolerate.Keeps owned before :=
  keeps

theorem keeps_obtain {answer : Option Nat} {handle : Nat → Handle} {set : Nat → Object}
    (adds : ∀ id, owned (set id) = handle id ::ₘ owned object) :
    (obtain answer handle set object).Keeps owned (owned object) := by
  cases answer with
  | none => exact Transfers.nil _
  | some id =>
      have acquired := Transfers.acquire (handle id) (owned object)
      rw [← adds id] at acquired
      exact acquired

theorem keeps_obtainThen {answer : Option Nat} {handle : Nat → Handle} {set : Nat → Object}
    (adds : ∀ id, owned (set id) = handle id ::ₘ owned object)
    (later : ∀ id, (next (set id)).Keeps owned (owned (set id))) :
    ((obtain answer handle set object).andThen next).Keeps owned (owned object) := by
  have first : (obtain answer handle set object).Keeps owned (owned object) := keeps_obtain adds
  cases answer with
  | none => exact first
  | some id => exact first.andThen fun _ => later id

theorem Keeps.orElse {staged : Staged Object Handle} {cleanup : Object → Staged Object Handle}
    (first : staged.Keeps owned before)
    (cleans : (cleanup staged.object).Keeps owned (owned staged.object)) :
    (staged.orElse cleanup).Keeps owned before := by
  rw [Staged.orElse]
  split
  · exact first
  · exact first.append cleans

/-- What holds of the object after a stage that succeeded, and after one that failed. -/
def Leaves (succeeded failed : Object → Prop) (staged : Staged Object Handle) : Prop :=
  if staged.ok then succeeded staged.object else failed staged.object

section

variable {succeeded middle failed : Object → Prop} {staged : Staged Object Handle}

omit [DecidableEq Handle] in
theorem Leaves.andThen (first : staged.Leaves middle failed)
    (later : ∀ object, middle object → (next object).Leaves succeeded failed) :
    (staged.andThen next).Leaves succeeded failed := by
  rw [Leaves] at first
  rw [Staged.andThen]
  split
  · rename_i ok
    rw [if_pos ok] at first
    exact later staged.object first
  · rename_i ok
    rw [if_neg ok] at first
    rwa [Leaves, if_neg ok]

omit [DecidableEq Handle] in
theorem leaves_check {ok : Bool} (holds : succeeded object) (otherwise : failed object) :
    (check ok object : Staged Object Handle).Leaves succeeded failed := by
  cases ok with
  | false => exact otherwise
  | true => exact holds

omit [DecidableEq Handle] in
theorem leaves_obtain {answer : Option Nat} {handle : Nat → Handle} {set : Nat → Object}
    (sets : ∀ id, succeeded (set id)) (otherwise : failed object) :
    (obtain answer handle set object).Leaves succeeded failed := by
  cases answer with
  | none => exact otherwise
  | some id => exact sets id

omit [DecidableEq Handle] in
theorem leaves_checkThen {ok : Bool} (otherwise : failed object)
    (later : (next object).Leaves succeeded failed) :
    ((check ok object).andThen next).Leaves succeeded failed := by
  have checked : (check ok object : Staged Object Handle).Leaves (· = object) failed :=
    leaves_check rfl otherwise
  apply checked.andThen
  rintro _ rfl
  exact later

omit [DecidableEq Handle] in
theorem leaves_obtainThen {answer : Option Nat} {handle : Nat → Handle} {set : Nat → Object}
    (otherwise : failed object) (later : ∀ id, (next (set id)).Leaves succeeded failed) :
    ((obtain answer handle set object).andThen next).Leaves succeeded failed := by
  have obtained : (obtain answer handle set object).Leaves (∃ id, set id = ·) failed :=
    leaves_obtain (fun id => ⟨id, rfl⟩) otherwise
  apply obtained.andThen
  rintro _ ⟨id, rfl⟩
  exact later id

omit [DecidableEq Handle] in
theorem Leaves.orElse {cleanup : Object → Staged Object Handle}
    (first : staged.Leaves succeeded middle)
    (cleans : ∀ object, middle object → failed (cleanup object).object) :
    (staged.orElse cleanup).Leaves succeeded failed := by
  rw [Leaves] at first
  rw [Staged.orElse]
  split
  · rename_i ok
    rw [if_pos ok] at first
    rwa [Leaves, if_pos ok]
  · rename_i ok
    rw [if_neg ok] at first
    exact cleans staged.object first

omit [DecidableEq Handle] in
theorem Leaves.inside {Part : Type*} {part : Staged Part Handle} {set : Part → Object}
    {succeededPart failedPart : Part → Prop} (leaves : part.Leaves succeededPart failedPart)
    (lifts : ∀ object, succeededPart object → succeeded (set object))
    (liftsFailed : ∀ object, failedPart object → failed (set object)) :
    (part.inside set).Leaves succeeded failed := by
  rw [Leaves] at leaves ⊢
  rw [inside_ok]
  split
  · rename_i ok
    rw [if_pos ok] at leaves
    exact lifts _ leaves
  · rename_i ok
    rw [if_neg ok] at leaves
    exact liftsFailed _ leaves

omit [DecidableEq Handle] in
theorem Leaves.always {holds : Object → Prop} (leaves : staged.Leaves holds holds) :
    holds staged.object := by
  rwa [Leaves, ite_self] at leaves

omit [DecidableEq Handle] in
theorem Leaves.tolerate {holds : Object → Prop} (leaves : staged.Leaves holds holds) :
    staged.tolerate.Leaves holds failed :=
  leaves.always

end

omit [DecidableEq Handle] in
theorem orElse_of_ok {staged : Staged Object Handle} {cleanup : Object → Staged Object Handle}
    (succeeded : (staged.orElse cleanup).ok = true) : staged.orElse cleanup = staged := by
  rw [Staged.orElse] at succeeded ⊢
  split
  · rfl
  · rename_i failed
    rw [if_neg failed] at succeeded
    cases succeeded

def giveBack (held : Option Nat) (handle : Nat → Handle) : List (HandleCall Handle) :=
  (held.map fun id => .release (handle id)).toList

def holding (held : Option Nat) (handle : Nat → Handle) : Multiset Handle :=
  held.elim 0 fun id => {handle id}

omit [DecidableEq Handle] in
theorem mem_holding {handle : Handle} {held : Option Nat} {kind : Nat → Handle} :
    handle ∈ holding held kind ↔ ∃ id, held = some id ∧ kind id = handle := by
  cases held with
  | none => simp [holding]
  | some id => simp [holding, eq_comm]

theorem clears_giveBack (held : Option Nat) (handle : Nat → Handle) :
    Transfers (giveBack held handle) (holding held handle) 0 := by
  cases held with
  | none => exact Transfers.nil 0
  | some id => exact Transfers.release (handle id) 0

theorem transfers_giveBack (held : Option Nat) (handle : Nat → Handle) (rest : Multiset Handle) :
    Transfers (giveBack held handle) (holding held handle + rest) rest := by
  cases held with
  | none => exact (Multiset.zero_add rest).symm ▸ Transfers.nil rest
  | some id => exact Transfers.release (handle id) rest

end Staged

end Foundation
