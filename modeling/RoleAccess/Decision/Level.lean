import RoleAccess.Decision.Trace
import RoleAccess.Request.Arguments
import RoleAccess.Rulebook.Document
set_option autoImplicit false

/-! # Consulting one level

A level is consulted with the roles of a request; the verdict is noted, together with the
decisions it was read from. Going from general to special, each level that speaks replaces
the decision made so far.
-/

namespace RoleAccess

/-- Consults a level and notes its verdict. -/
def consult (roles : Value) (ruleType : Value) (rules extra : Table Value) : Trace Verdict := do
  let verdict ← Trace.ofUse (Verdict.judge rules roles)
  Trace.note (.level ruleType rules verdict extra)
  return verdict

/-- Consults the decisions at one address. -/
def consultAllows (roles : Value) (ruleType : Text) (allows : Allows) (extra : Table Value) :
    Trace Verdict :=
  consult roles (.str ruleType) allows.toFields extra

/-- The decision after a level, which may have no decisions at all. -/
def applyLevel (roles : Value) (ruleType : Text) (allows : Option Allows)
    (extra : Table Value) (sofar : Bool) : Trace Bool :=
  match allows with
  | none => return sofar
  | some allows => do
      let verdict ← consultAllows roles ruleType allows extra
      return verdict.orElse sofar

/-! ## One level on its own -/

/-- One level with the decision so far, where each part can be any value. -/
structure LevelCheck where
  current : Value
  roles : Value
  rules : Value
  /-- Ask whether the level has a decision: if not, the answer is nothing. -/
  matched : Value
  ruleType : Value
  extra : Table Value

namespace LevelCheck

/-- The decisions of the level; nothing given is no decisions. -/
def table (check : LevelCheck) : Except Misuse (Table Value) :=
  if check.rules.truthy then
    match check.rules with
    | .obj fields => .ok fields
    | _ => .error .notAMapping
  else .ok []

/-- Consults the level. -/
def run (check : LevelCheck) : Trace Value := do
  let _ ← Trace.ofUse check.roles.elements
  let rules ← Trace.ofUse check.table
  let verdict ← consult check.roles check.ruleType rules check.extra
  match verdict.decision? with
  | some decision => return .bool decision
  | none => return if check.matched.truthy then .null else check.current

/-- The names of the parts that are no extra fields. -/
def partNames : List Text :=
  ["current_allow", "roles", "rule_allow", "matched", "rule_type", "audit"]

/-- Reads a level check from arguments; those that name no part are extra fields of the
entry, and so are the `more` arguments. -/
def ofArguments (args more : Arguments) : Except Misuse LevelCheck :=
  match more.keys.find? (args.keys.contains ·) with
  | some name => .error (.repeatedArgument name)
  | none =>
      let all := args ++ more
      match Arguments.firstMissing? ["current_allow", "roles", "rule_allow"] all with
      | some name => .error (.missingArgument name)
      | none =>
          if (all.find? "audit").isSome then .error (.repeatedArgument "audit")
          else .ok
            { current := Arguments.get all "current_allow"
              roles := Arguments.get all "roles"
              rules := Arguments.get all "rule_allow"
              matched := Arguments.get all "matched"
              ruleType := Arguments.get all "rule_type"
              extra := all.filter fun entry => !partNames.contains entry.1 }

end LevelCheck

end RoleAccess
