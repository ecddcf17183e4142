import RoleAccess.Policy.Event
import RoleAccess.Policy.Fingerprint
import RoleAccess.Rulebook.Document
import RoleAccess.Rulebook.Enact
set_option autoImplicit false

/-! # Policies

A policy holds a rulebook, the ownership fields of models and the rules it falls back to.
Rules are added together or not at all. Replacing the dynamic rules keeps the default ones
and nothing else. The fingerprint of the current rules is computed when it is first asked
for, and forgotten whenever rules or ownership fields change.
-/

namespace RoleAccess

/-- The state of a policy. -/
structure Policy where
  config : Config := {}
  book : Rulebook := {}
  /-- The session field that names the owner, for models with one of their own. -/
  ownerFields : Table Text := []
  /-- The rules that stay when rules are replaced. -/
  defaults : List Rule := []
  /-- The fingerprint of the rules and ownership fields, if it is known. -/
  id : Option Text := none
  /-- The audit of the last query that was decided. -/
  lastAudit : Option Trail := none

/-- What an operation on a policy came to. -/
structure Outcome (α : Type) where
  policy : Policy
  events : List Event := []
  result : Except Failure α

namespace Outcome

variable {α β : Type}

/-- Goes on with the result, if there is one. -/
def andThen (first : Outcome α) (f : Policy → α → Outcome β) : Outcome β :=
  match first.result with
  | .error e => { policy := first.policy, events := first.events, result := .error e }
  | .ok a =>
      let second := f first.policy a
      { second with events := first.events ++ second.events }

/-- Changes the result. -/
def map (f : α → β) (first : Outcome α) : Outcome β :=
  { policy := first.policy, events := first.events, result := first.result.map f }

end Outcome

namespace Policy

/-- An operation that changes and reports nothing. -/
def answer {α : Type} (policy : Policy) (result : Except Failure α) : Outcome α :=
  { policy, result }

/-! ## Rules -/

/-- The events of putting rules in. -/
def enactmentEvents (e : Enactment) : List Event := e.enacted.map .enacted

/-- Adds rules together, and keeps them as default rules if asked to. -/
def addRules (policy : Policy) (rules isDefault : Value) : Outcome Unit :=
  let e := policy.book.enactList rules
  match e.fault with
  | some fault => { policy, events := enactmentEvents e, result := .error (.rule fault) }
  | none =>
      let defaults :=
        if isDefault.truthy then policy.defaults ++ e.enacted else policy.defaults
      { policy := { policy with book := e.book, id := none, defaults }
        events := enactmentEvents e
        result := .ok () }

/-- Adds one rule. -/
def addRule (policy : Policy) (rule isDefault : Value) : Outcome Unit :=
  policy.addRules (.list [rule]) isDefault

/-- A new rulebook with the default rules and some others after them. -/
def enactReplacement (policy : Policy) (rules : Value) : Enactment :=
  let base := ({} : Rulebook).addAll policy.defaults
  match base.fault with
  | some _ => base
  | none =>
      let e := base.book.enactList rules
      { e with enacted := base.enacted ++ e.enacted }

/-- Replaces all rules that are not default rules. -/
def replaceDynamic (policy : Policy) (rules : Value) : Outcome Unit :=
  let e := policy.enactReplacement rules
  match e.fault with
  | some fault =>
      { policy
        events := enactmentEvents e ++ [.rejected fault]
        result := .error (.rule fault) }
  | none =>
      let dynamic := e.enacted.length - policy.defaults.length
      { policy := { policy with book := e.book, id := none }
        events := enactmentEvents e ++ [.replaced policy.defaults.length dynamic]
        result := .ok () }

/-! ## Ownership fields -/

/-- A text that is not empty, as the argument of a name. -/
def nameArgument (argument : Text) (value : Value) : Except RequestFault Text :=
  match value with
  | .str s => if s = "" then .error (.missing argument) else .ok s
  | _ => .error (.missing argument)

/-- Sets the session field that names the owner of a model's records. -/
def setOwnerField (policy : Policy) (model field : Value) : Outcome Unit :=
  match nameArgument "model" model, nameArgument "access_id_name" field with
  | .error e, _ => policy.answer (.error (.request e))
  | .ok _, .error e => policy.answer (.error (.request e))
  | .ok model, .ok field =>
      { policy := { policy with ownerFields := policy.ownerFields.put model field, id := none }
        result := .ok () }

/-- The session field that names the owner of a model's records. -/
def ownerField (policy : Policy) (model : Value) : Except Misuse Text :=
  (policy.ownerFields.lookup model).map fun field => field.getD policy.config.ownerField

/-! ## Fingerprint -/

/-- The fingerprint of the current rules and ownership fields. -/
def fingerprint (policy : Policy) : Except EncodingFault Text :=
  Fingerprint.compute policy.book.toValue (Value.ofTexts policy.ownerFields)

/-- The fingerprint, which is computed unless it is known. -/
def currentId (policy : Policy) : Outcome Text :=
  match policy.id with
  | some id => policy.answer (.ok id)
  | none =>
      match policy.fingerprint with
      | .error e => policy.answer (.error (.encoding e))
      | .ok id =>
          { policy := { policy with id := some id }
            events := [.identified id]
            result := .ok id }

/-- The rules as data: all of them if nothing is named, else those about what is named. The
fingerprint is computed on the way. -/
def showRules (policy : Policy) (resource : Value) : Outcome Value :=
  policy.currentId.andThen fun policy _ =>
    match resource with
    | .null => policy.answer (.ok policy.book.toValue)
    | resource =>
        policy.answer ((policy.book.sectionNamed resource).mapError Failure.misuse)

/-! ## The policy itself -/

/-- The default rules as data. -/
def defaultsValue (policy : Policy) : Value :=
  .list (policy.defaults.map fun rule => .list (rule.parts.map Value.str))

/-- The policy in one line. -/
def display (policy : Policy) : Text :=
  "AccessControl(strict=" ++ Value.displayBool policy.config.strict ++
    ", audit=" ++ Value.displayBool policy.config.audit ++
    ", id=" ++ Value.displayText? policy.id ++ ")"

/-- A new policy. The settings come first, then what replaces single ones, then the rules,
which become default rules. -/
def create (settings : Option (Table Value)) (strict audit rules : Value) :
    Except Failure (Policy × List Event) := do
  let base ← (Config.ofFields (settings.getD [])).mapError Failure.config
  let config ← (base.withOverrides strict audit).mapError Failure.config
  let policy : Policy := { config }
  match rules with
  | .null => return (policy, [])
  | rules =>
      let first := policy.addRules rules (.bool true)
      let _ ← first.result
      return (first.policy, first.events)

end Policy

end RoleAccess
