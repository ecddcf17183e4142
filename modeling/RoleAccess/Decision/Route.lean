import RoleAccess.Decision.Level
import RoleAccess.Request.Basic
import RoleAccess.Rule.Path
set_option autoImplicit false

/-! # Decisions about routes

A route decision starts from allowance, consults the level for all routes, and then walks
down the path: at each segment the rules of the path so far are consulted, then those for
the method on it. The last level that speaks decides. The walk ends at the first segment
below which there are no rules.
-/

namespace RoleAccess

/-- The segments of a path that can be any value. -/
def pathSegments : Value → Except Misuse (List Text)
  | .str path => .ok (Path.segments path)
  | .bytes _ => .error .pathOfBytes
  | _ => .error .notAPath

/-- The decision after the branch of one segment. -/
def RouteBranch.visit (branch : RouteBranch) (roles method : Value) (segment : Text)
    (sofar : Bool) : Trace Bool := do
  let methodRules ← Trace.ofUse (branch.methods.lookup method)
  if branch.allow.isNone && methodRules.isNone then do
    Trace.note (.unruled segment)
    return sofar
  else do
    let extra : Table Value := [("segment", .str segment)]
    let allow ← applyLevel roles "path" branch.allow extra sofar
    applyLevel roles "method" methodRules extra allow

/-- The decision after a walk down some segments. -/
def RouteBranch.walk (roles method : Value) : List Text → RouteBranch → Bool → Trace Bool
  | [], _, sofar => return sofar
  | segment :: rest, branch, sofar =>
      match Table.find? segment branch.paths with
      | none => return sofar
      | some child => do
          let allow ← child.visit roles method segment sofar
          walk roles method rest child allow

namespace Rulebook

/-- The decision on a route request. -/
def routeDecision (book : Rulebook) (roles : Value) (r : RouteRequest) : Trace Bool :=
  match book.routes with
  | none => return true
  | some root => do
      let allow ← applyLevel roles "global" root.allow [] true
      let segments ← Trace.ofUse (pathSegments r.path)
      root.walk roles r.method segments allow

/-- Decides a route request and leaves the audit on a trail. -/
def decideRoute (book : Rulebook) (trail : Trail) (roles : Value) (r : RouteRequest) :
    Trail × Except Failure Bool :=
  trail.settle (book.routeDecision roles r)

end Rulebook

end RoleAccess
