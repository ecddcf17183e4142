import RoleAccess.Failure.Catalogue
import RoleAccess.Value.Display
set_option autoImplicit false

/-! # Rejected rules

Why a rule, or a list of rules, is rejected. The first five causes are faults of the shape
of the input; the others are faults of the rule text. All but the first two name the rule
by the comma-separated text of its parts.
-/

namespace RoleAccess

/-- Why a rule is rejected. -/
inductive RuleFault where
  /-- The rules are no list. -/
  | rulesNotAList (value : Value)
  /-- The rule is no list. -/
  | ruleNotAList (value : Value)
  /-- The rule is empty or its last part is no text. -/
  | noRuleText (source : Text)
  /-- Nothing stands in front of the rule text. -/
  | noRoles (source : Text)
  /-- A role is no text, or is empty. -/
  | badRoles (source : Text)
  /-- The last clause is no decision. -/
  | badDecision (source : Text)
  /-- A denial for other roles than the one everyone has. -/
  | roleDenied (source : Text)
  /-- The first clause is no resource. -/
  | badResource (source : Text)
  /-- A clause is empty. -/
  | emptyClause (source : Text)
  /-- A blanket rule has clauses. -/
  | blanketClauses (source : Text)
  /-- The clauses do not fit the resource. -/
  | badClauses (source : Text)
  /-- The last clause of a model rule is no scope. -/
  | badScope (source scope : Text)
  /-- A path does not start with a slash. -/
  | relativePath (source path : Text)
  /-- A path has an empty segment. -/
  | emptySegment (source path : Text)

namespace RuleFault

/-- The class of the error. -/
def cls : RuleFault → ErrorClass
  | rulesNotAList _ | ruleNotAList _ | noRuleText _ | noRoles _ | badRoles _ => .invalidInput
  | _ => .invalidRule

/-- The wording of the error. -/
def message : RuleFault → Text
  | rulesNotAList _ => "rules must be a list of rule tuples"
  | ruleNotAList _ => "rule must be a list of roles followed by a rule string"
  | noRuleText source => "invalid rule " ++ source
  | noRoles source => "one or more roles required " ++ source
  | badRoles source => "roles must be non-empty strings " ++ source
  | badDecision source => "allow must be 0 or 1 " ++ source
  | roleDenied source => "deny can only be set for all role " ++ source
  | badResource source => "invalid resource type " ++ source
  | emptyClause source => "empty clause in rule " ++ source
  | blanketClauses source => "* rule must have single clause " ++ source
  | badClauses source => "invalid rule " ++ source
  | badScope source _ => "scope must be own or any " ++ source
  | relativePath source _ => "path must start with slash " ++ source
  | emptySegment source _ => "invalid path " ++ source

/-- What the error is about. -/
def details : RuleFault → Table Value
  | rulesNotAList value => [("rules", .str value.display)]
  | ruleNotAList value => [("rule", .str value.display)]
  | noRuleText source | noRoles source | badRoles source | badDecision source
  | roleDenied source | badResource source | emptyClause source | blanketClauses source
  | badClauses source => [("rule", .str source)]
  | badScope source scope => [("rule", .str source), ("scope", .str scope)]
  | relativePath source path | emptySegment source path =>
      [("rule", .str source), ("path", .str path)]

end RuleFault

end RoleAccess
