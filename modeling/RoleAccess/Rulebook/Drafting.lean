import RoleAccess.Rulebook.Enact
set_option autoImplicit false

/-! # Putting rules in step by step

A rulebook can be worked on in place: sections, pages and branches are made when they are
first needed, each on the way from the one above it, and a decision is given at the end. A
fault ends the work, and whatever was changed before it stays changed. So it matters that all
there is to check about a rule is checked before the first section is made for it.
-/

namespace RoleAccess

/-! ## Places -/

/-- A section, a page or a branch of a rulebook. -/
inductive Place where
  | models
  | model (model : Text)
  | action (model action : Text)
  | state (model action state : Text)
  | modules
  | module (module : Text)
  | branch (segments : List Text)
  deriving DecidableEq, Repr

/-- Makes a place that is missing; one that is there stays as it is. -/
def Rulebook.ensure (book : Rulebook) : Place → Rulebook
  | .models => { book with models := some book.modelSection }
  | .model name => { book with models := some (book.modelSection.modifyPage name id) }
  | .action name act => { book with models := some (book.modelSection.modifyAction name act id) }
  | .state name act state =>
      { book with
        models := some (book.modelSection.modifyAction name act fun page =>
          { page with states := page.states.upsert state fun pair => pair.getD {} }) }
  | .modules => { book with modules := some book.moduleSection }
  | .module name => { book with modules := some (book.moduleSection.modifyPage name id) }
  | .branch segments => { book with routes := some (book.routeRoot.modifyAt id segments) }

/-! ## Steps -/

/-- Work on a rulebook. A fault ends it and leaves what was changed before. -/
abbrev Drafting (α : Type) := ExceptT RuleFault (StateM Rulebook) α

namespace Drafting

variable {α : Type}

/-- The result of some work, and the rulebook that it leaves. -/
def on (book : Rulebook) (work : Drafting α) : Except RuleFault α × Rulebook := work book

/-- Makes a place unless it is there. -/
def ensure (place : Place) : Drafting Unit := modify (·.ensure place)

/-- Gives the decision of a rule at an address. -/
def give (rule : Rule) (address : Address) : Drafting Unit :=
  modify (·.insert rule.roles rule.allow address)

/-! ## One rule -/

/-- Puts a blanket rule in, at the top of each section. -/
def addBlanket (rule : Rule) : Drafting Unit := do
  if rule.clauses ≠ [] then throw (.blanketClauses rule.source)
  ensure .models
  give rule .models
  ensure .modules
  give rule .modules
  ensure (.branch [])
  give rule (.route [])

/-- Reads the scope off the last of more than two clauses of a model rule. Two clauses are
about creation, and no more than two are. -/
def modelScope (rule : Rule) : Except RuleFault (Option Scope) :=
  if 2 < rule.clauses.length then
    if rule.clauses[1]? = some createAction ∨ 4 < rule.clauses.length then
      .error (.badClauses rule.source)
    else (Address.scopeOf rule.source (rule.clauses.getLast?.getD "")).map some
  else if rule.clauses.length = 2 ∧ rule.clauses[1]? ≠ some createAction then
    .error (.badClauses rule.source)
  else .ok none

/-- Puts a model rule in. -/
def addModel (rule : Rule) : Drafting Unit := do
  let scope ← modelScope rule
  ensure .models
  match rule.clauses, scope with
  | [], _ => give rule .models
  | [name], _ => do
      ensure (.model name)
      give rule (.model name)
  | [name, act], _ => do
      ensure (.model name)
      ensure (.action name act)
      give rule (.creation name)
  | [name, act, _], some scope => do
      ensure (.model name)
      ensure (.action name act)
      give rule (.action name act scope)
  | name :: act :: state :: _, some scope => do
      ensure (.model name)
      ensure (.action name act)
      ensure (.state name act state)
      give rule (.state name act state scope)
  -- more than two clauses end with a scope
  | _, none => return ()

/-- Puts a module rule in. -/
def addModule (rule : Rule) : Drafting Unit := do
  if 2 < rule.clauses.length then throw (.badClauses rule.source)
  ensure .modules
  match rule.clauses with
  | [] => give rule .modules
  | [name] => do
      ensure (.module name)
      give rule (.module name)
  | name :: method :: _ => do
      ensure (.module name)
      give rule (.moduleMethod name method)

/-- Reads the segments off the path of a route rule; no path stands for all routes. -/
def routeSegments (rule : Rule) : Except RuleFault (List Text) :=
  match rule.clauses with
  | [] => .ok []
  | path :: _ => Address.segmentsOf rule.source path

/-- Makes the branches on the way down some segments, one below the other. -/
def descend (before : List Text) : List Text → Drafting Unit
  | [] => return ()
  | segment :: rest => do
      ensure (.branch (before ++ [segment]))
      descend (before ++ [segment]) rest

/-- Puts a route rule in. -/
def addRoute (rule : Rule) : Drafting Unit := do
  if 2 < rule.clauses.length then throw (.badClauses rule.source)
  let segments ← routeSegments rule
  ensure (.branch [])
  descend [] segments
  match rule.clauses with
  | [_, method] => give rule (.routeMethod segments method)
  | _ => give rule (.route segments)

/-- Puts a rule in. -/
def add (rule : Rule) : Drafting Unit :=
  match rule.resource with
  | .blanket => addBlanket rule
  | .model => addModel rule
  | .module => addModule rule
  | .route => addRoute rule

/-- Reads a rule and puts it in. -/
def enact (value : Value) : Drafting Rule := do
  let rule ← Rule.parse value
  add rule
  return rule

/-! ## Lists of rules -/

/-- Reads rules and puts them in, one after the other. -/
def enactAll : List Value → Drafting Unit
  | [] => return ()
  | value :: rest => do
      let _ ← enact value
      enactAll rest

/-- Reads a list of rules and puts them in, one after the other. -/
def enactList (rules : Value) : Drafting Unit :=
  match rules.items? with
  | none => throw (.rulesNotAList rules)
  | some items => enactAll items

end Drafting

end RoleAccess
