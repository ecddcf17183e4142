import RoleAccess.Rule.Basic
import RoleAccess.Value.Basic
set_option autoImplicit false

/-! # The verdict of one level

A level holds the last decision for each role. To the roles of a request it says one of
three things. It allows if any of the roles is allowed, and names the first such role. It
denies if none is and the role everyone has is denied, whether or not the request has that
role. Otherwise it is silent, and what more general levels said stands.
-/

namespace RoleAccess

/-- What a level says to the roles of a request. -/
inductive Verdict where
  | allowed (role : Value)
  | denied
  | silent

namespace Verdict

/-- The decision, if the level has one. -/
def decision? : Verdict → Option Bool
  | allowed _ => some true
  | denied => some false
  | silent => none

/-- The decision of the level, else the one made so far. -/
def orElse (verdict : Verdict) (sofar : Bool) : Bool := verdict.decision?.getD sofar

/-- An entry that is given allows. -/
def grants : Option Value → Bool
  | some value => value.truthy
  | none => false

/-- An entry that is present, but not given, denies. -/
def refuses : Option Value → Bool
  | some .null => false
  | some value => !value.truthy
  | none => false

/-- The verdict of a level on a list of roles. -/
def ofRoles (rules : Table Value) : List Value → Except Misuse Verdict
  | [] => .ok (if refuses (rules.find? allRole) then denied else silent)
  | role :: rest =>
      match rules.lookup role with
      | .error misuse => .error misuse
      | .ok entry => if grants entry then .ok (allowed role) else ofRoles rules rest

/-- The verdict of a level on the roles that a walk through a value meets. -/
def judge (rules : Table Value) (roles : Value) : Except Misuse Verdict :=
  match roles.elements with
  | .error misuse => .error misuse
  | .ok roles => ofRoles rules roles

end Verdict

end RoleAccess
