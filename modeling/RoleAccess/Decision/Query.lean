import RoleAccess.Decision.Model
import RoleAccess.Decision.Module
import RoleAccess.Decision.Route
import RoleAccess.Request.Roles
import RoleAccess.Request.Validation
set_option autoImplicit false

/-! # Queries

The four kinds of requests as one type, and what a rulebook rules on each: a decision, or
the widest scope something is allowed for. A query for the widest scope takes a model
request, of which the owner and the scope do not count.
-/

namespace RoleAccess

/-- A request of any kind. -/
inductive Query where
  | model (request : ModelRequest)
  | modelScope (request : ModelRequest)
  | module (request : ModuleRequest)
  | route (request : RouteRequest)

/-- What is ruled on a query. -/
inductive Ruling where
  | decision (allowed : Bool)
  | widest (scope : Option Scope)
  deriving DecidableEq, Repr

namespace Ruling

/-- Something is allowed. -/
def allowed : Ruling → Bool
  | decision allowed => allowed
  | widest scope => scope.isSome

/-- The widest scope, if the query asked for it. -/
def scope : Ruling → Option Scope
  | decision _ => none
  | widest scope => scope

/-- The bare answer. -/
def toValue : Ruling → Value
  | decision allowed => .bool allowed
  | widest scope => Record.scopeValue scope

end Ruling

namespace Query

/-- The kind of check a query asks for. -/
def kind : Query → CheckKind
  | model _ => .model
  | modelScope _ => .modelScope
  | module _ => .module
  | route _ => .route

/-- The session a query is made for. -/
def session : Query → Value
  | model r => r.session
  | modelScope r => r.session
  | module r => r.session
  | route r => r.session

/-- The roles a query is made with. -/
def roles (query : Query) : Value := rolesOf query.session

/-- The arguments of a query that are given. -/
def given : Query → Table Value
  | model r => r.given
  | modelScope r => r.givenWithoutRecord
  | module r => r.given
  | route r => r.given

/-- Strict validation. -/
def validate : Query → Except RequestFault Unit
  | model r => r.validate true
  | modelScope r => r.validate false
  | module r => r.validate
  | route r => r.validate

/-- Validation of a query that need not be complete: a scope that counts must be one. -/
def validateScope : Query → Except RequestFault Unit
  | model r => if r.scope.isNull then .ok () else (Scope.ofValue r.scope).map fun _ => ()
  | _ => .ok ()

/-- Reads a query from named arguments, some of which are allowed beside those that every
query of the kind requires. -/
def ofArguments (kind : CheckKind) (optional : List Text) (args : Arguments) :
    Except Misuse Query :=
  match kind with
  | .model => do
      args.check ModelRequest.required optional
      return model (.ofArguments args)
  | .modelScope => do
      args.check ModelRequest.required optional
      return modelScope (.ofArguments args)
  | .module => do
      args.check ModuleRequest.required optional
      return module (.ofArguments args)
  | .route => do
      args.check RouteRequest.required optional
      return route (.ofArguments args)

end Query

/-- Rules on a query and leaves the audit on a trail. -/
def Rulebook.rule (book : Rulebook) (ownership : Ownership) (trail : Trail) (roles : Value) :
    Query → Trail × Except Failure Ruling
  | .model r =>
      let decided := book.decideModel ownership trail roles r
      (decided.1, decided.2.map Ruling.decision)
  | .modelScope r =>
      let decided := book.widestScope ownership trail roles r
      (decided.1, decided.2.map Ruling.widest)
  | .module r =>
      let decided := book.decideModule trail roles r
      (decided.1, decided.2.map Ruling.decision)
  | .route r =>
      let decided := book.decideRoute trail roles r
      (decided.1, decided.2.map Ruling.decision)

/-- The arguments that a query made directly to a rulebook can have beside those that every
query of its kind requires. A session matters only to models, for it tells owners. -/
def Query.directOptions : CheckKind → List Text
  | .model => ["access_id", "scope", "session", "states"]
  | .modelScope => ["session", "states"]
  | _ => []

end RoleAccess
