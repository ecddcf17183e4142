import RoleAccess.Rule.Basic
set_option autoImplicit false

/-! # The roles of a session

A session acts with the roles it lists, even if it lists none. A session that lists none at
all acts with the role everyone has and with one that says whether it has an account.
-/

namespace RoleAccess

/-- The role of a session with an account that lists no roles. -/
def authenticatedRole : Text := "authenticated"

/-- The role of a session without an account. -/
def anonymousRole : Text := "anonymous"

/-- The roles of a session that lists none. -/
def defaultRoles (role : Text) : Value := .list [.str allRole, .str role]

/-- The roles a session acts with. -/
def rolesOf (session : Value) : Value :=
  match session with
  | .obj fields =>
      match Value.field "roles" fields with
      | .list roles => .list roles
      | _ =>
          if (Value.field "accountId" fields).truthy then defaultRoles authenticatedRole
          else defaultRoles anonymousRole
  | _ => defaultRoles anonymousRole

end RoleAccess
