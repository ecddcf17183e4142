import RoleAccess.Decision.Query
import RoleAccess.Policy.Basic
set_option autoImplicit false

/-! # Checks

A check validates a query, in full if the policy is strict, opens a trail, and has the
current rules rule on the query with the roles of its session. Its answer carries the
trail. Deciding a query is a check that answers the bare ruling and keeps the trail in the
policy.
-/

namespace RoleAccess

/-- The answer of a check. -/
structure Checked where
  ruling : Ruling
  trail : Trail

namespace Policy

/-- How the current policy tells owners. -/
def ownership (policy : Policy) : Ownership :=
  { fields := policy.ownerFields.mapValues Value.str
    fallback := .str policy.config.ownerField }

/-- Whether a check is audited; the check can say so itself. -/
def audits (policy : Policy) (audit : Value) : Bool :=
  if audit.isNull then policy.config.audit else audit.truthy

/-- Opens the trail of a check. An audited check is recorded under the fingerprint of the
rules. -/
def openTrail (policy : Policy) (query : Query) (audit : Value) : Outcome Trail :=
  if policy.audits audit then
    policy.currentId.map fun id => .kept { id := .str id, kind := query.kind, args := query.given }
  else policy.answer (.ok .off)

/-- What the policy requires of a query. -/
def validate (policy : Policy) (query : Query) : Except RequestFault Unit :=
  if policy.config.strict then query.validate else query.validateScope

/-- Has the rules rule on a query. -/
def ruleOn (policy : Policy) (query : Query) (trail : Trail) : Outcome Checked :=
  let ruled := policy.book.rule policy.ownership trail query.roles query
  { policy
    events := Event.ofTrail ruled.1
    result := ruled.2.map fun ruling => { ruling, trail := ruled.1 } }

/-- Checks a query. -/
def check (policy : Policy) (query : Query) (audit : Value) : Outcome Checked :=
  match policy.validate query with
  | .error e => policy.answer (.error (.request e))
  | .ok _ => (policy.openTrail query audit).andThen fun policy trail => policy.ruleOn query trail

/-- Checks a query, keeps the trail and answers the ruling. -/
def decide (policy : Policy) (query : Query) (audit : Value) : Outcome Ruling :=
  (policy.check query audit).andThen fun policy checked =>
    { policy := { policy with lastAudit := some checked.trail }
      result := .ok checked.ruling }

end Policy

end RoleAccess
