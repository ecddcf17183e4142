import RoleAccess.Rule.Basic
import RoleAccess.Rule.Fault
set_option autoImplicit false

/-! # Reading rules

A rule is read from a list or a tuple whose last item is the rule text and whose other
items are the roles. The faults are looked for in a fixed order, so that of several the
same one is always reported.
-/

namespace RoleAccess.Rule

/-- The roles, if each is a text that is not empty. -/
def rolesOf? : List Value → Option (List Text)
  | [] => some []
  | item :: rest =>
      match item with
      | .str role => if role = "" then none else (rolesOf? rest).map (role :: ·)
      | _ => none

/-- Reads a decision. -/
def decisionOf? (last : Option Text) : Option Bool :=
  if last = some ("0" : Text) then some false
  else if last = some ("1" : Text) then some true
  else none

/-- Reads the pieces of a rule text. -/
def ofPieces (source : Text) (roles : List Text) (first : Text) (rest : List Text) :
    Except RuleFault Rule :=
  match decisionOf? rest.getLast? with
  | none => .error (.badDecision source)
  | some allow =>
      if allow = false ∧ roles ≠ [allRole] then .error (.roleDenied source)
      else
        match Resource.ofName? first with
        | none => .error (.badResource source)
        | some resource =>
            let clauses := rest.dropLast
            if ("" : Text) ∈ clauses then .error (.emptyClause source)
            else .ok { roles, resource, clauses, allow }

/-- Reads a rule text for some roles. -/
def ofText (source : Text) (roles : List Text) (text : Text) : Except RuleFault Rule :=
  match Text.splitOn ':' text with
  | [] => .error (.badDecision source)
  | first :: rest => ofPieces source roles first rest

/-- Reads the items of a rule. -/
def ofItems (items : List Value) : Except RuleFault Rule :=
  let source := Text.joinWith ',' (items.map Value.plain)
  match items.getLast? with
  | some (.str text) =>
      let before := items.dropLast
      if before.isEmpty then .error (.noRoles source)
      else
        match rolesOf? before with
        | none => .error (.badRoles source)
        | some roles => ofText source roles text
  | _ => .error (.noRuleText source)

/-- Reads a rule. -/
def parse (value : Value) : Except RuleFault Rule :=
  match value.items? with
  | none => .error (.ruleNotAList value)
  | some items => ofItems items

end RoleAccess.Rule
