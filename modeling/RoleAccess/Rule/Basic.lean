import RoleAccess.Text.Split
import RoleAccess.Value.Basic
set_option autoImplicit false

/-! # Rules

A rule gives one decision to some roles at one place. It is written as the roles followed
by a rule text: the resource, the clauses that narrow the place down, and the decision,
with colons between them. This file holds the type and the written form.
-/

namespace RoleAccess

/-- The role everyone has; the only one that something can be denied to. -/
def allRole : Text := "all"

/-- The model action without an ownership scope. -/
def createAction : Text := "create"

/-- The record state that is denied unless a rule allows it. -/
def deletedState : Text := "deleted"

/-- Whether a decision is about the records a session owns or about all records. -/
inductive Scope where
  | own
  | any
  deriving DecidableEq, Repr

namespace Scope

/-- The written form of a scope. -/
def name : Scope → Text
  | own => "own"
  | any => "any"

/-- Reads a scope. -/
def ofName? (name : Text) : Option Scope :=
  if name = "own" then some own else if name = "any" then some any else none

theorem ofName?_name (scope : Scope) : ofName? scope.name = some scope := by
  cases scope <;> decide

end Scope

/-- What a rule is about; the blanket resource stands for all the others. -/
inductive Resource where
  | blanket
  | model
  | module
  | route
  deriving DecidableEq, Repr

namespace Resource

/-- The written form of a resource. -/
def name : Resource → Text
  | blanket => "*"
  | model => "model"
  | module => "module"
  | route => "route"

/-- Reads a resource. -/
def ofName? (name : Text) : Option Resource :=
  if name = "*" then some blanket
  else if name = "model" then some model
  else if name = "module" then some module
  else if name = "route" then some route
  else none

theorem ofName?_name (resource : Resource) : ofName? resource.name = some resource := by
  cases resource <;> decide

end Resource

/-- A rule, taken apart. -/
structure Rule where
  roles : List Text
  resource : Resource
  /-- What stands between the resource and the decision. -/
  clauses : List Text
  allow : Bool
  deriving DecidableEq, Repr

/-- The written form of a decision. -/
def decisionMark (allow : Bool) : Text := if allow then "1" else "0"

namespace Rule

/-- The rule text: resource, clauses and decision with colons between them. -/
def text (rule : Rule) : Text :=
  Text.joinWith ':' (rule.resource.name :: (rule.clauses ++ [decisionMark rule.allow]))

/-- The written form: the roles followed by the rule text. -/
def parts (rule : Rule) : List Text := rule.roles ++ [rule.text]

/-- The parts with commas between them, as messages name a rule. They are derived from the
rule and not kept beside it: a rule that was read has the parts that it was read from, so its
source is what it was given as, with commas between the elements. -/
def source (rule : Rule) : Text := Text.joinWith ',' rule.parts

end Rule

end RoleAccess
