import RoleAccess.Rulebook.Verdict
import RoleAccess.Value.Fields
set_option autoImplicit false

/-! # Audit entries

An entry says what was found at one step of a decision: how a model decision started, what
a level said, or that a path on the way has no rules that matter. An entry can also be
given from outside. It is then kept as it is, whatever it is, and only where the entries are
read as data it has to spell fields.
-/

namespace RoleAccess

/-- One step of a decision. -/
inductive Entry where
  /-- A model decision starts, with the decision that stands if no level speaks. -/
  | opened (deleted allow : Bool)
  /-- A level was consulted. The `extra` fields say more about it and replace the entry's own
  fields of the same name. -/
  | level (ruleType : Value) (rules : Table Value) (verdict : Verdict) (extra : Table Value)
  /-- A path on the way has rules neither of its own nor for the method. -/
  | unruled (segment : Text)
  /-- An entry given from outside. -/
  | given (source : Value)

namespace Entry

/-- The fields that a verdict puts in front. -/
def verdictFields : Verdict → Table Value
  | .allowed role => [("allow", .bool true), ("role", role)]
  | .denied => [("allow", .bool false), ("role", .str allRole)]
  | .silent => [("matched", .bool false)]

/-- The fields that say which rules were consulted. -/
def ruleFields (ruleType rules : Value) : Table Value :=
  [("rule_type", ruleType), ("rules", rules)]

/-- The fields of an entry. One given from outside has those that it spells, and none if it
spells none. -/
def fields : Entry → Table Value
  | opened deleted allow => [("deleted", .bool deleted), ("allow", .bool allow)]
  | level ruleType rules verdict extra =>
      (verdictFields verdict ++ ruleFields ruleType (.obj rules)).overrideWith extra
  | unruled segment => [("rule_type", .str "none"), ("segment", .str segment)]
  | given source => source.asFields.toOption.getD []

/-- The entry as data. One given from outside has to spell fields. -/
def toValue : Entry → Except FieldsFault Value
  | given source => source.asFields.map .obj
  | entry => .ok (.obj entry.fields)

/-- The entry in the form that it was given in. -/
def source : Entry → Value
  | given source => source
  | entry => .obj entry.fields

end Entry

end RoleAccess
