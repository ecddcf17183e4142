import RoleAccess.Audit.Trail
import RoleAccess.Failure.Basic
import RoleAccess.Rule.Basic
set_option autoImplicit false

/-! # Events

What a policy reports while it works: rules put in or refused, ids computed, and records
completed. Each event has a weight and comes from one part of the library.
-/

namespace RoleAccess

/-- Something a policy reports. -/
inductive Event where
  | enacted (rule : Rule)
  | identified (id : Text)
  | replaced (defaults dynamic : Nat)
  | rejected (error : RuleFault)
  | sealed (record : Record)

/-- The weight of an event. -/
inductive Event.Level where
  | debug
  | info
  | warning
  deriving DecidableEq, Repr

/-- The part of the library that an event comes from. -/
inductive Event.Origin where
  | rules
  | policy
  | audit
  deriving DecidableEq, Repr

namespace Event

/-- The weight of an event. -/
def level : Event → Level
  | replaced .. => .info
  | rejected _ => .warning
  | _ => .debug

/-- The part of the library that an event comes from. -/
def origin : Event → Origin
  | enacted _ => .rules
  | sealed _ => .audit
  | _ => .policy

/-- The wording of an event. -/
def message : Event → Text
  | enacted rule => "compiled rule " ++ rule.source
  | identified id => "computed rules id " ++ id
  | replaced defaults dynamic =>
      "replaced rules: " ++ toString defaults ++ " default, " ++ toString dynamic ++ " dynamic"
  | rejected error => "rule replacement rejected: " ++ error.message
  | sealed _ => "access audit"

/-- The event of a trail whose record is complete. -/
def ofTrail (trail : Trail) : List Event :=
  match trail.completeRecord? with
  | some record => [sealed record]
  | none => []

end Event

end RoleAccess
