import RoleAccess.Rule.Basic
import RoleAccess.Rule.Fault
import RoleAccess.Rule.Path
set_option autoImplicit false

/-! # Addresses

An address is a place that a decision can be given at. It lists, from general to special,
the models, one model, its creation, one of its actions in a scope, such an action on
records in one state; the modules, one module, one of its methods; and a path of routes,
or one method on it, where the empty path stands for all routes. Every rule but a blanket
one has one address. A rule whose clauses do not spell an address is rejected, whatever
rules there are besides.
-/

namespace RoleAccess

/-- A place that a decision can be given at. -/
inductive Address where
  | models
  | model (model : Text)
  | creation (model : Text)
  | action (model action : Text) (scope : Scope)
  | state (model action state : Text) (scope : Scope)
  | modules
  | module (module : Text)
  | moduleMethod (module method : Text)
  | route (segments : List Text)
  | routeMethod (segments : List Text) (method : Text)
  deriving DecidableEq, Repr

namespace Address

/-- Reads a scope clause. -/
def scopeOf (source clause : Text) : Except RuleFault Scope :=
  match Scope.ofName? clause with
  | some scope => .ok scope
  | none => .error (.badScope source clause)

/-- The address that the clauses of a model rule spell. Creation has no scope, and every
other action has one. -/
def ofModelClauses (source : Text) : List Text → Except RuleFault Address
  | [] => .ok .models
  | [name] => .ok (.model name)
  | [name, act] =>
      if act = createAction then .ok (.creation name) else .error (.badClauses source)
  | [name, act, scope] =>
      if act = createAction then .error (.badClauses source)
      else (scopeOf source scope).map (.action name act)
  | [name, act, condition, scope] =>
      if act = createAction then .error (.badClauses source)
      else (scopeOf source scope).map (.state name act condition)
  | _ => .error (.badClauses source)

/-- The address that the clauses of a module rule spell. -/
def ofModuleClauses (source : Text) : List Text → Except RuleFault Address
  | [] => .ok .modules
  | [name] => .ok (.module name)
  | [name, method] => .ok (.moduleMethod name method)
  | _ => .error (.badClauses source)

/-- The segments of the path in a route rule; it starts at the root and no segment is
empty. -/
def segmentsOf (source path : Text) : Except RuleFault (List Text) :=
  if Path.isAbsolute path then
    if ("" : Text) ∈ Path.segments path then .error (.emptySegment source path)
    else .ok (Path.segments path)
  else .error (.relativePath source path)

/-- The address that the clauses of a route rule spell. -/
def ofRouteClauses (source : Text) : List Text → Except RuleFault Address
  | [] => .ok (.route [])
  | [path] => (segmentsOf source path).map .route
  | [path, method] => (segmentsOf source path).map (.routeMethod · method)
  | _ => .error (.badClauses source)

/-- The addresses of a blanket rule. -/
def blanket : List Address := [.models, .modules, .route []]

end Address

/-- The addresses a rule gives its decision at. -/
def Rule.addresses (rule : Rule) : Except RuleFault (List Address) :=
  match rule.resource with
  | .blanket =>
      if rule.clauses = [] then .ok Address.blanket else .error (.blanketClauses rule.source)
  | .model => (Address.ofModelClauses rule.source rule.clauses).map ([·])
  | .module => (Address.ofModuleClauses rule.source rule.clauses).map ([·])
  | .route => (Address.ofRouteClauses rule.source rule.clauses).map ([·])

end RoleAccess
