import RoleAccess.Audit.Step
import RoleAccess.Proofs.ModelNotes
import RoleAccess.Proofs.SealedRecords
set_option autoImplicit false

/-! # The life of a record

A record can be changed from outside as well, by calls in any order. It takes the changes up to
the first one that seals it, and from then on it refuses every change and stays as it is. Which
changes seal depends on the kind of the record: a scope always does, and a decision does unless
a scope is still to come.

A change is taken or refused as a whole (`Trail.perform_taken`, `Trail.perform_refused`), and
both leave a record of which the same can be said, so the one induction is over the changes.
-/

namespace RoleAccess

/-! ## Changes -/

/-- A change that is asked of a record from outside. An entry or a decision can be any value. -/
inductive TrailChange where
  | addEntry (source : Value)
  | setDecision (decision : Value)
  | setScope (scope : Option Scope)

namespace TrailChange

/-- The step that asks for a change. -/
@[simp] def step : TrailChange → TrailStep
  | addEntry source => .addEntry source
  | setDecision decision => .setDecision decision
  | setScope scope => .setScope scope

/-- What is answered if the change is taken: the decision or the scope itself. -/
@[simp] def answer : TrailChange → Value
  | addEntry .. => .null
  | setDecision decision => decision
  | setScope scope => Record.scopeValue scope

/-- The decision that is set. -/
@[simp] def decision? : TrailChange → Option Value
  | setDecision decision => some decision
  | _ => none

/-- The scope that is set. -/
@[simp] def scope? : TrailChange → Option (Option Scope)
  | setScope scope => some scope
  | _ => none

end TrailChange

namespace Record

variable (record : Record)

end Record

/-! ## Steps -/

namespace Trail

variable (changes : List TrailChange)

end Trail

end RoleAccess
