import RoleAccess.Rule.Address
set_option autoImplicit false

/-! # The rulebook

A rulebook holds, at every address, the last decision given to each role. Decisions are
kept in three sections, for models, modules and routes, each of which narrows down from
general to special; the routes form a tree by path segments. A section, or a place in one,
exists once a rule was given at or below it.

`insert` gives a decision at an address and `allowsAt` looks one up. Giving a decision
never moves or removes one at another address or for another role.
-/

namespace RoleAccess

/-- The last decision given to each role at one address. -/
abbrev Allows := Table Bool

/-- Gives a decision to some roles. -/
def Allows.assign (roles : List Text) (allow : Bool) (allows : Option Allows) : Allows :=
  roles.foldl (fun table role => table.put role allow) (allows.getD [])

/-- Decisions by ownership scope. -/
structure ScopedAllows where
  own : Option Allows := none
  any : Option Allows := none
  deriving DecidableEq, Repr

namespace ScopedAllows

/-- The decisions for a scope. -/
def get (pair : ScopedAllows) : Scope → Option Allows
  | .own => pair.own
  | .any => pair.any

/-- Replaces the decisions for a scope. -/
def modify (scope : Scope) (f : Option Allows → Allows) (pair : ScopedAllows) :
    ScopedAllows :=
  match scope with
  | .own => { pair with own := some (f pair.own) }
  | .any => { pair with any := some (f pair.any) }

end ScopedAllows

/-- Decisions about one action of a model. -/
structure ActionPage where
  /-- The decisions about creation. -/
  allow : Option Allows := none
  scopes : ScopedAllows := {}
  states : Table ScopedAllows := []
  deriving DecidableEq, Repr

/-- Decisions about one model. -/
structure ModelPage where
  allow : Option Allows := none
  actions : Table ActionPage := []
  deriving DecidableEq, Repr

/-- Decisions about models. -/
structure ModelSection where
  allow : Option Allows := none
  models : Table ModelPage := []
  deriving DecidableEq, Repr

/-- Decisions about one module. -/
structure ModulePage where
  allow : Option Allows := none
  methods : Table Allows := []
  deriving DecidableEq, Repr

/-- Decisions about modules. -/
structure ModuleSection where
  allow : Option Allows := none
  modules : Table ModulePage := []
  deriving DecidableEq, Repr

/-- Decisions about one path of routes, and about the paths below it. -/
structure RouteBranch where
  allow : Option Allows := none
  methods : Table Allows := []
  paths : List (Text × RouteBranch) := []

/-- The last decision for each role at every address. -/
structure Rulebook where
  models : Option ModelSection := none
  modules : Option ModuleSection := none
  routes : Option RouteBranch := none

/-! ## Giving decisions -/

/-- Changes the page of one model, which is made if it is missing. -/
def ModelSection.modifyPage (model : Text) (f : ModelPage → ModelPage)
    (part : ModelSection) : ModelSection :=
  { part with models := part.models.upsert model fun page => f (page.getD {}) }

/-- Changes the page of one action, which is made if it is missing. -/
def ModelSection.modifyAction (model action : Text) (f : ActionPage → ActionPage)
    (part : ModelSection) : ModelSection :=
  part.modifyPage model fun page =>
    { page with actions := page.actions.upsert action fun found => f (found.getD {}) }

/-- Changes the page of one module, which is made if it is missing. -/
def ModuleSection.modifyPage (module : Text) (f : ModulePage → ModulePage)
    (part : ModuleSection) : ModuleSection :=
  { part with modules := part.modules.upsert module fun page => f (page.getD {}) }

/-- Changes the branch at the end of a path, which is made if it is missing. -/
def RouteBranch.modifyAt (f : RouteBranch → RouteBranch) : List Text → RouteBranch → RouteBranch
  | [], branch => f branch
  | segment :: rest, branch =>
      { branch with
        paths := Table.upsert segment (fun child => modifyAt f rest (child.getD {})) branch.paths }

namespace Rulebook

/-- The section about models, which is empty if there is none. -/
def modelSection (book : Rulebook) : ModelSection := book.models.getD {}

/-- The section about modules, which is empty if there is none. -/
def moduleSection (book : Rulebook) : ModuleSection := book.modules.getD {}

/-- The branch of all routes, which is empty if there is none. -/
def routeRoot (book : Rulebook) : RouteBranch := book.routes.getD {}

/-- Replaces the decisions at an address. -/
def modifyAt (f : Option Allows → Allows) (book : Rulebook) : Address → Rulebook
  | .models =>
      let part := book.modelSection
      { book with models := some { part with allow := some (f part.allow) } }
  | .model name =>
      { book with
        models := some (book.modelSection.modifyPage name fun page =>
          { page with allow := some (f page.allow) }) }
  | .creation name =>
      { book with
        models := some (book.modelSection.modifyAction name createAction fun page =>
          { page with allow := some (f page.allow) }) }
  | .action name action scope =>
      { book with
        models := some (book.modelSection.modifyAction name action fun page =>
          { page with scopes := page.scopes.modify scope f }) }
  | .state name action state scope =>
      { book with
        models := some (book.modelSection.modifyAction name action fun page =>
          { page with
            states := page.states.upsert state fun pair => (pair.getD {}).modify scope f }) }
  | .modules =>
      let part := book.moduleSection
      { book with modules := some { part with allow := some (f part.allow) } }
  | .module name =>
      { book with
        modules := some (book.moduleSection.modifyPage name fun page =>
          { page with allow := some (f page.allow) }) }
  | .moduleMethod name method =>
      { book with
        modules := some (book.moduleSection.modifyPage name fun page =>
          { page with methods := page.methods.upsert method f }) }
  | .route segments =>
      { book with
        routes := some (book.routeRoot.modifyAt
          (fun branch => { branch with allow := some (f branch.allow) }) segments) }
  | .routeMethod segments method =>
      { book with
        routes := some (book.routeRoot.modifyAt
          (fun branch => { branch with methods := branch.methods.upsert method f }) segments) }

/-- Gives a decision to some roles at an address. -/
def insert (roles : List Text) (allow : Bool) (book : Rulebook) (address : Address) :
    Rulebook :=
  book.modifyAt (Allows.assign roles allow) address

end Rulebook

/-! ## Looking decisions up -/

/-- The page of one action. -/
def ModelSection.action? (part : ModelSection) (model action : Text) : Option ActionPage :=
  (part.models.find? model).bind fun page => page.actions.find? action

/-- The branch at the end of a path. -/
def RouteBranch.at? : List Text → RouteBranch → Option RouteBranch
  | [], branch => some branch
  | segment :: rest, branch =>
      match Table.find? segment branch.paths with
      | none => none
      | some child => at? rest child

namespace Rulebook

/-- The decisions at an address, if there are any. -/
def allowsAt (book : Rulebook) : Address → Option Allows
  | .models => book.modelSection.allow
  | .model name => (book.modelSection.models.find? name).bind ModelPage.allow
  | .creation name => (book.modelSection.action? name createAction).bind ActionPage.allow
  | .action name action scope =>
      (book.modelSection.action? name action).bind fun page => page.scopes.get scope
  | .state name action state scope =>
      (book.modelSection.action? name action).bind fun page =>
        (page.states.find? state).bind fun pair => pair.get scope
  | .modules => book.moduleSection.allow
  | .module name => (book.moduleSection.modules.find? name).bind ModulePage.allow
  | .moduleMethod name method =>
      (book.moduleSection.modules.find? name).bind fun page => page.methods.find? method
  | .route segments => (book.routeRoot.at? segments).bind RouteBranch.allow
  | .routeMethod segments method =>
      (book.routeRoot.at? segments).bind fun branch => branch.methods.find? method

/-- The decision for a role at an address, if one was given. -/
def decisionAt (book : Rulebook) (address : Address) (role : Text) : Option Bool :=
  (book.allowsAt address).bind fun allows => allows.find? role

end Rulebook

end RoleAccess
