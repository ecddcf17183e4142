import RoleAccess.Policy.Check
set_option autoImplicit false

/-! # Calls on a policy

Everything that can be asked of a policy, with any arguments, as data. A run of calls is a
list of them; what a policy is after a run depends on nothing but the calls.
-/

namespace RoleAccess

/-- The operations of a policy. -/
inductive Operation where
  | addRule
  | addRules
  | replaceDynamic
  | setOwnerField
  | ownerField
  | sessionRoles
  | showRules
  | identify
  | judgeLevel
  | check (kind : CheckKind)
  | decide (kind : CheckKind)
  deriving DecidableEq, Repr

/-- An operation with its arguments. -/
inductive Call where
  | addRule (rule isDefault : Value)
  | addRules (rules isDefault : Value)
  | replaceDynamic (rules : Value)
  | setOwnerField (model field : Value)
  | ownerField (model : Value)
  | sessionRoles (session : Value)
  | showRules (resource : Value)
  | identify
  | judgeLevel (check : LevelCheck)
  | check (query : Query) (audit : Value)
  | decide (query : Query) (audit : Value)

/-- The answer to a call. -/
inductive Answer where
  | value (value : Value)
  | checked (checked : Checked)

/-! ## Calls from named arguments -/

/-- The optional arguments of a check. Those that are told from the record are let through
in a check for the widest scope too, where they do not count. -/
def checkOptions : CheckKind → List Text
  | .model => ["access_id", "scope", "session", "states", "audit"]
  | .modelScope => ["access_id", "scope", "session", "states", "audit"]
  | _ => ["session", "audit"]

/-- The name under which a call has the policy itself; no other argument can have it. -/
def Call.receiver : Text := "self"

/-- Reads a call from its arguments. -/
def Operation.call (args : Arguments) : Operation → Except Misuse Call
  | .addRule => do
      args.check ["rule"] ["is_default"]
      return .addRule (args.get "rule") (args.get "is_default")
  | .addRules => do
      args.check ["rules"] ["is_default"]
      return .addRules (args.get "rules") (args.get "is_default")
  | .replaceDynamic => do
      args.check ["rules"] []
      return .replaceDynamic (args.get "rules")
  | .setOwnerField => do
      args.check ["model", "access_id_name"] []
      return .setOwnerField (args.get "model") (args.get "access_id_name")
  | .ownerField => do
      args.check ["model"] []
      return .ownerField (args.get "model")
  | .sessionRoles => do
      args.check [] ["session"]
      return .sessionRoles (args.get "session")
  | .showRules => do
      args.check [] ["resource_type"]
      return .showRules (args.get "resource_type")
  | .identify => do
      args.check [] []
      return .identify
  | .judgeLevel => do
      let named := args.filter fun entry => entry.1 != ("extra" : Text)
      let more ← Arguments.spread (args.find? "extra")
      if (Table.find? Call.receiver (named ++ more)).isSome then
        .error (.repeatedArgument Call.receiver)
      else return .judgeLevel (← LevelCheck.ofArguments named more)
  | .check kind => do
      return .check (← Query.ofArguments kind (checkOptions kind) args) (args.get "audit")
  | .decide kind => do
      return .decide (← Query.ofArguments kind (checkOptions kind) args) (args.get "audit")

/-! ## Carrying calls out -/

namespace Policy

/-- Carries a call out. -/
def step (policy : Policy) : Call → Outcome Answer
  | .addRule rule isDefault => (policy.addRule rule isDefault).map fun _ => .value .null
  | .addRules rules isDefault => (policy.addRules rules isDefault).map fun _ => .value .null
  | .replaceDynamic rules => (policy.replaceDynamic rules).map fun _ => .value .null
  | .setOwnerField model field => (policy.setOwnerField model field).map fun _ => .value .null
  | .ownerField model =>
      policy.answer (((policy.ownerField model).mapError Failure.misuse).map (.value <| .str ·))
  | .sessionRoles session => policy.answer (.ok (.value (rolesOf session)))
  | .showRules resource => (policy.showRules resource).map .value
  | .identify => policy.currentId.map (.value <| .str ·)
  | .judgeLevel check => policy.answer (check.run.result.map .value)
  | .check query audit => (policy.check query audit).map .checked
  | .decide query audit => (policy.decide query audit).map (.value <| ·.toValue)

/-- The policy after some calls. -/
def run (policy : Policy) (calls : List Call) : Policy :=
  calls.foldl (fun p call => (p.step call).policy) policy

end Policy

end RoleAccess
