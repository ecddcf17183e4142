import RoleAccess.Request.Basic
set_option autoImplicit false

/-! # Strict validation of requests

A strict policy looks at no rule before the request has passed these checks, which are made
in a fixed order: the names, the session, and for models the states and what the ownership
scope is told from.
-/

namespace RoleAccess

/-- The session is an object with a text as its id and a list of roles. -/
def validateSession (session : Value) : Except RequestFault Unit :=
  match session with
  | .obj fields =>
      match Value.field "sessionId" fields with
      | .str _ =>
          match Value.field "roles" fields with
          | .list _ => .ok ()
          | _ => .error .noSessionRoles
      | _ => .error .noSessionId
  | _ => .error .noSession

/-- An argument is a text that is not empty. -/
def requireName (argument : Text) (value : Value) : Except RequestFault Unit :=
  if value.isNonEmptyText then .ok () else .error (.missing argument)

/-- The states are absent, or a list or a tuple of texts; a byte string passes if it is
empty. -/
def areStates : Value → Bool
  | .null => true
  | .list items => items.all fun item => item.text?.isSome
  | .tuple items => items.all fun item => item.text?.isSome
  | .bytes data => data.isEmpty
  | _ => false

/-- There is something to tell the ownership scope from, and a given scope is one. Creation
needs none. -/
def validateScope (r : ModelRequest) : Except RequestFault Unit :=
  if r.action.isText createAction then .ok ()
  else if r.recordOwner.isNull ∧ r.scope.isNull then .error (.noScope r.action)
  else if r.scope.isNull then .ok ()
  else (Scope.ofValue r.scope).map fun _ => ()

/-- Validates a model request; the scope is looked at only if it is needed. -/
def ModelRequest.validate (r : ModelRequest) (needsScope : Bool) : Except RequestFault Unit := do
  requireName "model" r.model
  requireName "action" r.action
  validateSession r.session
  if areStates r.states then
    if needsScope then validateScope r else .ok ()
  else .error .badStates

/-- Validates a module request. -/
def ModuleRequest.validate (r : ModuleRequest) : Except RequestFault Unit := do
  requireName "module" r.module
  requireName "method" r.method
  validateSession r.session

/-- Validates a route request. -/
def RouteRequest.validate (r : RouteRequest) : Except RequestFault Unit := do
  requireName "path" r.path
  requireName "method" r.method
  validateSession r.session

end RoleAccess
