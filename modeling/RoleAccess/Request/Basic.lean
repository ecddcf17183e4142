import RoleAccess.Request.Arguments
import RoleAccess.Request.Fault
import RoleAccess.Rule.Basic
set_option autoImplicit false

/-! # Requests

What is asked of the rules: whether a session may do something with records of a model,
call a method of a module, or request a route. A request takes any values; what is not
given is nothing. Reading one from named arguments checks the names only.
-/

namespace RoleAccess

/-- A request to do something with records of a model. -/
structure ModelRequest where
  model : Value
  action : Value
  /-- The owner of the record. -/
  recordOwner : Value := .null
  scope : Value := .null
  session : Value := .null
  /-- The states of the record. -/
  states : Value := .null

/-- A request to call a method of a module. -/
structure ModuleRequest where
  module : Value
  method : Value
  session : Value := .null

/-- A request for a path with a method. -/
structure RouteRequest where
  path : Value
  method : Value
  session : Value := .null

/-- Reads a scope argument. -/
def Scope.ofValue (value : Value) : Except RequestFault Scope :=
  match value.text?.bind Scope.ofName? with
  | some scope => .ok scope
  | none => .error (.badScope value)

/-- The argument names that every model request has. -/
def ModelRequest.required : List Text := ["model", "action"]

/-- Reads a model request from arguments with checked names. -/
def ModelRequest.ofArguments (args : Arguments) : ModelRequest :=
  { model := args.get "model"
    action := args.get "action"
    recordOwner := args.get "access_id"
    scope := args.get "scope"
    session := args.get "session"
    states := args.get "states" }

/-- The argument names that every module request has. -/
def ModuleRequest.required : List Text := ["module", "method"]

/-- Reads a module request from arguments with checked names. -/
def ModuleRequest.ofArguments (args : Arguments) : ModuleRequest :=
  { module := args.get "module"
    method := args.get "method"
    session := args.get "session" }

/-- The argument names that every route request has. -/
def RouteRequest.required : List Text := ["path", "method"]

/-- Reads a route request from arguments with checked names. -/
def RouteRequest.ofArguments (args : Arguments) : RouteRequest :=
  { path := args.get "path"
    method := args.get "method"
    session := args.get "session" }

/-! ## The arguments that are given -/

/-- The fields that are not nothing. -/
def givenFields (fields : Table Value) : Table Value :=
  fields.filter fun entry => !entry.2.isNull

/-- The given arguments of a model request. -/
def ModelRequest.given (r : ModelRequest) : Table Value :=
  givenFields [("model", r.model), ("action", r.action), ("access_id", r.recordOwner),
    ("scope", r.scope), ("session", r.session), ("states", r.states)]

/-- The given arguments of a request for the widest scope, which names no record. -/
def ModelRequest.givenWithoutRecord (r : ModelRequest) : Table Value :=
  givenFields [("model", r.model), ("action", r.action), ("session", r.session),
    ("states", r.states)]

/-- The given arguments of a module request. -/
def ModuleRequest.given (r : ModuleRequest) : Table Value :=
  givenFields [("module", r.module), ("method", r.method), ("session", r.session)]

/-- The given arguments of a route request. -/
def RouteRequest.given (r : RouteRequest) : Table Value :=
  givenFields [("path", r.path), ("method", r.method), ("session", r.session)]

end RoleAccess
