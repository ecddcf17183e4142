import RoleAccess.Rulebook.Basic
set_option autoImplicit false

/-! # The rulebook as data

A rulebook, and each of its sections, is shown as nested objects that hold what is present
and nothing else. The names of fields say what the names in them are: models, actions,
states, modules, methods or path segments.
-/

namespace RoleAccess

/-- A field that is left out if there is nothing to show. -/
def optionalField (name : Text) : Option Value → Table Value
  | some value => [(name, value)]
  | none => []

/-- A field for a table, left out if the table is empty. -/
def tableField {α : Type} (name : Text) (shown : α → Value) (table : Table α) : Table Value :=
  if table.isEmpty then [] else [(name, .obj (table.mapValues shown))]

/-- The decisions at one address. -/
def Allows.toFields (allows : Allows) : Table Value := allows.mapValues Value.bool

/-- The field of the decisions at one address. -/
def allowField (allow : Option Allows) : Table Value :=
  optionalField "allow" (allow.map fun allows => .obj allows.toFields)

/-- A place that holds decisions and nothing more. -/
def Allows.toValue (allows : Allows) : Value := .obj (allowField (some allows))

/-- The fields of decisions by scope. -/
def ScopedAllows.toFields (pair : ScopedAllows) : Table Value :=
  optionalField "own" (pair.own.map Allows.toValue) ++
    optionalField "any" (pair.any.map Allows.toValue)

/-- Decisions about one action. -/
def ActionPage.toValue (page : ActionPage) : Value :=
  .obj (allowField page.allow ++ page.scopes.toFields ++
    tableField "state" (fun pair => .obj pair.toFields) page.states)

/-- Decisions about one model. -/
def ModelPage.toValue (page : ModelPage) : Value :=
  .obj (allowField page.allow ++ tableField "action" ActionPage.toValue page.actions)

/-- Decisions about models. -/
def ModelSection.toValue (part : ModelSection) : Value :=
  .obj (allowField part.allow ++ tableField "model" ModelPage.toValue part.models)

/-- Decisions about one module. -/
def ModulePage.toValue (page : ModulePage) : Value :=
  .obj (allowField page.allow ++ tableField "method" Allows.toValue page.methods)

/-- Decisions about modules. -/
def ModuleSection.toValue (part : ModuleSection) : Value :=
  .obj (allowField part.allow ++ tableField "module" ModulePage.toValue part.modules)

mutual

/-- Decisions about one path of routes and the paths below it. -/
def RouteBranch.toValue : RouteBranch → Value
  | ⟨allow, methods, paths⟩ =>
      .obj (allowField allow ++ tableField "method" Allows.toValue methods ++
        (match RouteBranch.pathsToFields paths with
          | [] => []
          | fields => [("path", .obj fields)]))

/-- The branches below a path, by segment. -/
def RouteBranch.pathsToFields : List (Text × RouteBranch) → Table Value
  | [] => []
  | (segment, branch) :: rest => (segment, branch.toValue) :: RouteBranch.pathsToFields rest

end

namespace Rulebook

/-- The section about a resource as data, if there are rules about it. -/
def sectionValue? (book : Rulebook) : Resource → Option Value
  | .blanket => none
  | .model => book.models.map ModelSection.toValue
  | .module => book.modules.map ModuleSection.toValue
  | .route => book.routes.map RouteBranch.toValue

/-- The rulebook as data: a dump of the records that it consists of. Each record becomes an
object of its populated fields, in the order of their declaration and under their own names;
a field without a value is left out, also inside tables, and the entries of a table keep
their order. -/
def toValue (book : Rulebook) : Value :=
  .obj ([Resource.model, .module, .route].flatMap fun resource =>
    optionalField resource.name (book.sectionValue? resource))

/-- The section that a value names, as data: nothing if it names none or there are no rules
about it. -/
def sectionNamed (book : Rulebook) (name : Value) : Except Misuse Value :=
  match name with
  | .str s => .ok (((Resource.ofName? s).bind book.sectionValue?).getD .null)
  | name => if name.isKey then .ok .null else .error .notAKey

end Rulebook

end RoleAccess
