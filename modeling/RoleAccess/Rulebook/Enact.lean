import RoleAccess.Rule.Parser
import RoleAccess.Rulebook.Basic
set_option autoImplicit false

/-! # Putting rules into a rulebook

A rule is checked in full before the rulebook changes, so a rejected rule leaves no trace,
and whether it is rejected does not depend on the rulebook. A list of rules is put in one
by one, up to the first rejected one; the rules before it stay.
-/

namespace RoleAccess

/-- What putting a list of rules into a rulebook came to. -/
structure Enactment where
  book : Rulebook
  /-- The rules that were put in, in order. -/
  enacted : List Rule
  /-- Why the next rule was rejected, if one was. -/
  fault : Option RuleFault

namespace Rulebook

/-- Gives the decision of a rule at some addresses. -/
def insertAll (book : Rulebook) (roles : List Text) (allow : Bool)
    (addresses : List Address) : Rulebook :=
  addresses.foldl (insert roles allow) book

/-- Puts a rule in. -/
def add (book : Rulebook) (rule : Rule) : Except RuleFault Rulebook :=
  rule.addresses.map (book.insertAll rule.roles rule.allow)

/-- Reads a rule and puts it in. -/
def enact (book : Rulebook) (value : Value) : Except RuleFault (Rulebook × Rule) := do
  let rule ← Rule.parse value
  return (← book.add rule, rule)

/-- Puts rules in up to the first rejected one. -/
def addAll (book : Rulebook) : List Rule → Enactment
  | [] => { book, enacted := [], fault := none }
  | rule :: rest =>
      match book.add rule with
      | .error fault => { book, enacted := [], fault := some fault }
      | .ok next =>
          let result := next.addAll rest
          { result with enacted := rule :: result.enacted }

/-- Reads rules and puts them in up to the first rejected one. -/
def enactAll (book : Rulebook) : List Value → Enactment
  | [] => { book, enacted := [], fault := none }
  | value :: rest =>
      match book.enact value with
      | .error fault => { book, enacted := [], fault := some fault }
      | .ok (next, rule) =>
          let result := next.enactAll rest
          { result with enacted := rule :: result.enacted }

/-- Reads a list of rules and puts them in up to the first rejected one. -/
def enactList (book : Rulebook) (rules : Value) : Enactment :=
  match rules.items? with
  | none => { book, enacted := [], fault := some (.rulesNotAList rules) }
  | some items => book.enactAll items

end Rulebook

end RoleAccess
