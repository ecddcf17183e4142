import RoleAccess.Audit.Trail
import RoleAccess.Failure.Basic
import RoleAccess.Request.Arguments
set_option autoImplicit false

/-! # Steps on a trail

What can be asked of a trail from outside, as data, and how a trail is opened from named
arguments. What a complete record sends to the log is not part of a step: it is an event, and
is told from the trail after the step (`Event.ofTrail`).
-/

namespace RoleAccess

/-- A question to a trail, or a change of it. -/
inductive TrailStep where
  | addEntry (source : Value)
  | setDecision (decision : Value)
  | setScope (scope : Option Scope)
  | toValue
  | view
  | display

namespace Trail

/-- The trail after a change and the answer to it. -/
def changed (trail : Trail) (next : Except AuditFault Trail) (answer : Value) :
    Trail × Except Failure Value :=
  match next with
  | .error e => (trail, .error (.audit e))
  | .ok next => (next, .ok answer)

/-- Carries a step out. An entry can be any value; the decision and the scope are answered
unchanged. -/
def perform (trail : Trail) : TrailStep → Trail × Except Failure Value
  | .addEntry source => trail.changed (trail.addEntry (.given source)) .null
  | .setDecision decision => trail.changed (trail.setDecision decision) decision
  | .setScope scope => trail.changed (trail.setScope scope) (Record.scopeValue scope)
  | .toValue => (trail, trail.toValue.mapError Failure.fields)
  | .view => (trail, trail.view.mapError Failure.misuse)
  | .display => (trail, .ok (.str trail.display))

/-- Opens a trail from named arguments. It is off if it is said not to be enabled, whatever
the other arguments are. -/
def ofArguments (args : Arguments) : Except Failure Trail := do
  (args.check ["access_control_id", "allow_type"] ["allow_args", "enabled"]).mapError
    Failure.misuse
  if (args.find? "enabled").any (!·.truthy) then return off
  else
    let record ←
      (Record.open? (args.get "access_control_id") (args.get "allow_type") []).mapError
        Failure.record
    let args ← (args.get "allow_args").givenAsFields.mapError Failure.fields
    return kept { record with args }

end Trail

end RoleAccess
