import RoleAccess.Failure.Catalogue
set_option autoImplicit false

/-! # Refused requests

Why a request is refused before any rule is looked at: its session is not usable, or an
argument is missing or malformed.
-/

namespace RoleAccess

/-- Why a request is refused. -/
inductive RequestFault where
  | noSession
  | noSessionId
  | noSessionRoles
  /-- A name is no text, or is empty. -/
  | missing (argument : Text)
  /-- The states are no sequence of texts. -/
  | badStates
  /-- An action that has an ownership scope comes with nothing to tell the scope from. -/
  | noScope (action : Value)
  | badScope (scope : Value)

namespace RequestFault

/-- The class of the error. -/
def cls : RequestFault → ErrorClass
  | noSession | noSessionId | noSessionRoles => .invalidSession
  | _ => .invalidArgs

/-- The wording of the error. -/
def message : RequestFault → Text
  | noSession => "session required"
  | noSessionId => "session.sessionId required"
  | noSessionRoles => "session.roles required"
  | missing argument => argument ++ " required"
  | badStates => "states must be a list of strings"
  | noScope _ => "accessId or scope required for action other than create"
  | badScope _ => "scope must be own or any"

/-- What the error is about. -/
def details : RequestFault → Table Value
  | noSession | noSessionId | noSessionRoles => []
  | missing argument => [("argument", .str argument)]
  | badStates => [("argument", .str "states")]
  | noScope action => [("argument", .str "scope"), ("action", action)]
  | badScope scope => [("argument", .str "scope"), ("scope", scope)]

end RequestFault

end RoleAccess
