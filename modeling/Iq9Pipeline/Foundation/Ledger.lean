import Mathlib.Logic.Function.Basic
import Mathlib.Logic.Relation

/-!
A ledger of exclusive resources. Each resource is free, held by one agent, or
away from every agent; a resource with two holders, or one taken by nobody,
cannot be written down.
-/

namespace Foundation

inductive Holder (Agent : Type*)
  | free
  | heldBy (agent : Agent)
  | away

abbrev Ledger (Resource Agent : Type*) := Resource → Holder Agent

namespace Ledger

variable {Resource Agent : Type*} [DecidableEq Resource]

/-- The only ways a resource changes hands. -/
inductive Move : Ledger Resource Agent → Ledger Resource Agent → Prop
  | take {ledger : Ledger Resource Agent} (resource : Resource) (agent : Agent) :
      ledger resource = .free → Move ledger (Function.update ledger resource (.heldBy agent))
  | handOut {ledger : Ledger Resource Agent} (resource : Resource) (agent : Agent) :
      ledger resource = .heldBy agent → Move ledger (Function.update ledger resource .away)
  | putBack {ledger : Ledger Resource Agent} (resource : Resource) (agent : Agent) :
      ledger resource = .heldBy agent → Move ledger (Function.update ledger resource .free)
  | comeBack {ledger : Ledger Resource Agent} (resource : Resource) :
      ledger resource = .away → Move ledger (Function.update ledger resource .free)

def Possible (ledger : Ledger Resource Agent) : Prop :=
  Relation.ReflTransGen Move (fun _ => .free) ledger

end Ledger

end Foundation
