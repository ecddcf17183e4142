import RoleAccess.Failure.Basic
import RoleAccess.Request.Validation
set_option autoImplicit false

/-! # Validation of named arguments

Strict validation of a request that comes as named arguments, all of which are required
but the one that says whether a model request needs a scope, which it does by default.
-/

namespace RoleAccess

/-- The requests that can be validated. -/
inductive Validated where
  | model
  | module
  | route
  deriving DecidableEq, Repr

/-- Validates a request that comes as named arguments. -/
def Validated.check (args : Arguments) : Validated → Except Failure Unit
  | .model => do
      (args.check ["model", "action", "access_id", "scope", "session", "states"]
        ["require_scope"]).mapError Failure.misuse
      let needsScope := (args.find? "require_scope").all Value.truthy
      ((ModelRequest.ofArguments args).validate needsScope).mapError Failure.request
  | .module => do
      (args.check ["module", "method", "session"] []).mapError Failure.misuse
      (ModuleRequest.ofArguments args).validate.mapError Failure.request
  | .route => do
      (args.check ["path", "method", "session"] []).mapError Failure.misuse
      (RouteRequest.ofArguments args).validate.mapError Failure.request

end RoleAccess
