import RoleAccess.Rulebook.Document
import RoleAccess.Rulebook.Lemmas
set_option autoImplicit false

/-! # Decisions are shown where their addresses say

The document of a rulebook is made of nested objects. Each address has a place in it, told by
the names of the fields on the way, and what is shown there for a role is the decision that
the rulebook holds for the role at the address (`Rulebook.at?_toValue`). This is so for every
rulebook, whatever rules it comes from.
-/

namespace RoleAccess

variable {α : Type}

/-! ## Going down into a value -/

/-- What stands at the end of a path of field names. -/
def Value.at? : List Text → Value → Option Value
  | [], value => some value
  | name :: rest, .obj fields => (Table.find? name fields).bind (at? rest)
  | _ :: _, _ => none

@[simp] theorem Value.at?_cons_obj (name : Text) (rest : List Text) (fields : Table Value) :
    (Value.obj fields).at? (name :: rest) = (fields.find? name).bind (at? rest) := rfl

/-! ## Fields that are put together -/

theorem Table.find?_append (table more : Table α) (key : Text) :
    Table.find? key (table ++ more) = (table.find? key).or (more.find? key) := by
  induction table with
  | nil => rfl
  | cons entry rest ih =>
      obtain ⟨k, v⟩ := entry
      by_cases hk : k = key
      · simp [find?, hk]
      · simpa [find?, hk] using ih

theorem find?_optionalField (name key : Text) (value : Option Value) :
    Table.find? key (optionalField name value) = if name = key then value else none := by
  cases value <;> simp [optionalField, Table.find?]

theorem find?_tableField_of_ne {name key : Text} (hne : name ≠ key) (shown : α → Value)
    (table : Table α) : Table.find? key (tableField name shown table) = none := by
  unfold tableField
  split
  · rfl
  · simp [Table.find?, hne]

/-- Going down into the field of a table and on to one of its entries. -/
theorem bind_find?_tableField (name key : Text) (rest : List Text) (shown : α → Value)
    (table : Table α) :
    (Table.find? name (tableField name shown table)).bind (Value.at? (key :: rest)) =
      (table.find? key).bind fun entry => (shown entry).at? rest := by
  unfold tableField
  cases table with
  | nil => rfl
  | cons entry others =>
      rw [List.isEmpty_cons, if_neg Bool.false_ne_true, Table.find?, if_pos rfl,
        Option.bind_some, Value.at?_cons_obj, Table.find?_mapValues, Option.bind_map]
      rfl

/-- The same in an object where the field comes with others of other names. -/
theorem Value.at?_entry (fields : Table Value) (name key : Text) (rest : List Text)
    (shown : α → Value) (table : Table α)
    (found : fields.find? name = Table.find? name (tableField name shown table)) :
    (Value.obj fields).at? (name :: key :: rest) =
      (table.find? key).bind fun entry => (shown entry).at? rest := by
  rw [at?_cons_obj, found, bind_find?_tableField]

/-- The decision for a role in an object that has no other field of decisions. -/
theorem Value.at?_allow (allow : Option Allows) (others : Table Value)
    (other : others.find? "allow" = none) (role : Text) :
    (Value.obj (allowField allow ++ others)).at? ["allow", role] =
      (allow.bind (Table.find? role)).map Value.bool := by
  rw [at?_cons_obj, Table.find?_append, other, Option.or_none, allowField, find?_optionalField,
    if_pos rfl]
  cases allow with
  | none => rfl
  | some allows =>
      rw [Option.map_some, Option.bind_some, at?_cons_obj, Allows.toFields,
        Table.find?_mapValues, Option.bind_some]
      cases allows.find? role <;> rfl

theorem find?_allowField_of_ne {name : Text} (hne : name ≠ "allow") (allow : Option Allows) :
    Table.find? name (allowField allow) = none := by
  rw [allowField, find?_optionalField, if_neg (Ne.symm hne)]

/-! ## Fields with good values -/

/-- The values of some fields are all good. -/
def AllFields (good : Value → Prop) (fields : Table Value) : Prop :=
  ∀ field ∈ fields, good field.2

section AllFields

variable {good : Value → Prop}

theorem AllFields.append {fields others : Table Value} (all : AllFields good fields)
    (all' : AllFields good others) : AllFields good (fields ++ others) := by
  intro field mem
  exact (List.mem_append.mp mem).elim (all field) (all' field)

theorem allFields_mapValues (shown : α → Value) (table : Table α)
    (all : ∀ entry ∈ table, good (shown entry.2)) : AllFields good (table.mapValues shown) :=
  List.forall_mem_map.mpr all

theorem allFields_optionalField (name : Text) (value : Option Value)
    (all : ∀ v ∈ value, good v) : AllFields good (optionalField name value) := by
  cases value with
  | none => nofun
  | some v =>
      intro field mem
      cases List.mem_singleton.mp mem
      exact all v rfl

/-- The object that is shown for a table is never an empty one. -/
theorem allFields_tableField
    (wrap : ∀ fields, fields ≠ [] → AllFields good fields → good (.obj fields)) (name : Text)
    (shown : α → Value) (table : Table α) (all : ∀ entry ∈ table, good (shown entry.2)) :
    AllFields good (tableField name shown table) := by
  unfold tableField
  split
  · nofun
  · next present =>
      intro field mem
      cases List.mem_singleton.mp mem
      refine wrap _ ?_ (allFields_mapValues shown table all)
      simpa [Table.mapValues] using present

end AllFields

/-! ## Pages -/

theorem Allows.at?_toValue (allows : Allows) (role : Text) :
    allows.toValue.at? ["allow", role] = (allows.find? role).map Value.bool := by
  have alone := Value.at?_allow (some allows) [] rfl role
  rwa [List.append_nil] at alone

theorem ScopedAllows.find?_toFields (pair : ScopedAllows) (scope : Scope) :
    Table.find? scope.name pair.toFields = (pair.get scope).map Allows.toValue := by
  cases scope <;>
    simp [toFields, Table.find?_append, find?_optionalField, Scope.name, get]

/-- A scope is the only name in the fields of decisions by scope. -/
theorem ScopedAllows.find?_toFields_of_ne (pair : ScopedAllows) {name : Text}
    (own : name ≠ "own") (any : name ≠ "any") : Table.find? name pair.toFields = none := by
  rw [toFields, Table.find?_append, find?_optionalField, find?_optionalField,
    if_neg (Ne.symm own), if_neg (Ne.symm any), Option.or_none]

/-- A decision for one of the two scopes. -/
theorem ScopedAllows.bind_find?_toFields (pair : ScopedAllows) (scope : Scope) (role : Text) :
    (Table.find? scope.name pair.toFields).bind (Value.at? ["allow", role]) =
      ((pair.get scope).bind (Table.find? role)).map Value.bool := by
  rw [find?_toFields]
  cases pair.get scope with
  | none => rfl
  | some allows => exact allows.at?_toValue role

namespace ActionPage

variable (page : ActionPage)

theorem at?_allow (role : Text) :
    page.toValue.at? ["allow", role] = (page.allow.bind (Table.find? role)).map Value.bool := by
  rw [toValue, List.append_assoc]
  apply Value.at?_allow
  rw [Table.find?_append, ScopedAllows.find?_toFields_of_ne _ (by decide) (by decide),
    find?_tableField_of_ne (by decide), Option.or_none]

theorem at?_scope (scope : Scope) (role : Text) :
    page.toValue.at? [scope.name, "allow", role] =
      ((page.scopes.get scope).bind (Table.find? role)).map Value.bool := by
  have notAllow : scope.name ≠ "allow" := by cases scope <;> decide
  have notState : "state" ≠ scope.name := by cases scope <;> decide
  rw [toValue, Value.at?_cons_obj, Table.find?_append, Table.find?_append,
    find?_allowField_of_ne notAllow, find?_tableField_of_ne notState, Option.none_or,
    Option.or_none, ScopedAllows.bind_find?_toFields]

theorem at?_state (state : Text) (scope : Scope) (role : Text) :
    page.toValue.at? ["state", state, scope.name, "allow", role] =
      (((page.states.find? state).bind fun pair => pair.get scope).bind
        (Table.find? role)).map Value.bool := by
  have entry := Value.at?_entry
    (allowField page.allow ++ page.scopes.toFields ++
      tableField "state" (fun pair => Value.obj pair.toFields) page.states)
    "state" state [scope.name, "allow", role] (fun pair => Value.obj pair.toFields) page.states
    (by rw [Table.find?_append, Table.find?_append, find?_allowField_of_ne (by decide),
      ScopedAllows.find?_toFields_of_ne _ (by decide) (by decide), Option.none_or,
      Option.none_or])
  rw [toValue, entry]
  cases page.states.find? state with
  | none => rfl
  | some pair => exact pair.bind_find?_toFields scope role

end ActionPage

section Tables

/-! A page with decisions of its own and one table of what is below it. -/

variable {name : Text} (hne : name ≠ "allow") (allow : Option Allows) (shown : α → Value)
  (table : Table α)

include hne

theorem at?_page_allow (role : Text) :
    (Value.obj (allowField allow ++ tableField name shown table)).at? ["allow", role] =
      (allow.bind (Table.find? role)).map Value.bool :=
  Value.at?_allow allow _ (find?_tableField_of_ne hne shown table) role

theorem at?_page_entry (key : Text) (rest : List Text) :
    (Value.obj (allowField allow ++ tableField name shown table)).at? (name :: key :: rest) =
      (table.find? key).bind fun entry => (shown entry).at? rest :=
  Value.at?_entry _ name key rest shown table
    (by rw [Table.find?_append, find?_allowField_of_ne hne, Option.none_or])

end Tables

/-! ## Branches of routes -/

namespace RouteBranch

theorem pathsToFields_eq (paths : Table RouteBranch) :
    pathsToFields paths = paths.mapValues toValue := by
  induction paths with
  | nil => rfl
  | cons entry rest ih =>
      obtain ⟨segment, branch⟩ := entry
      rw [pathsToFields, ih]
      rfl

theorem toValue_eq (branch : RouteBranch) :
    branch.toValue =
      .obj (allowField branch.allow ++ (tableField "method" Allows.toValue branch.methods ++
        tableField "path" toValue branch.paths)) := by
  obtain ⟨allow, methods, paths⟩ := branch
  rw [toValue, pathsToFields_eq, List.append_assoc]
  cases paths <;> rfl

variable (branch : RouteBranch)

theorem at?_allow (role : Text) :
    branch.toValue.at? ["allow", role] =
      (branch.allow.bind (Table.find? role)).map Value.bool := by
  rw [toValue_eq]
  apply Value.at?_allow
  rw [Table.find?_append, find?_tableField_of_ne (by decide), find?_tableField_of_ne (by decide),
    Option.or_none]

theorem at?_method (method role : Text) :
    branch.toValue.at? ["method", method, "allow", role] =
      ((branch.methods.find? method).bind (Table.find? role)).map Value.bool := by
  have entry := Value.at?_entry
    (allowField branch.allow ++ (tableField "method" Allows.toValue branch.methods ++
      tableField "path" toValue branch.paths))
    "method" method ["allow", role] Allows.toValue branch.methods
    (by rw [Table.find?_append, Table.find?_append, find?_allowField_of_ne (by decide),
      find?_tableField_of_ne (show ("path" : Text) ≠ "method" by decide), Option.none_or,
      Option.or_none])
  rw [toValue_eq, entry]
  cases branch.methods.find? method with
  | none => rfl
  | some allows => exact allows.at?_toValue role

/-- The names of the fields that lead to the branch below a branch. -/
def place (segment : Text) : List Text := ["path", segment]

theorem at?_path (segment : Text) (rest : List Text) :
    branch.toValue.at? ("path" :: segment :: rest) =
      (Table.find? segment branch.paths).bind fun child => child.toValue.at? rest := by
  rw [toValue_eq]
  apply Value.at?_entry
  rw [Table.find?_append, Table.find?_append, find?_allowField_of_ne (by decide),
    find?_tableField_of_ne (by decide), Option.none_or, Option.none_or]

/-- Going down the branches segment by segment. -/
theorem at?_segments (segments rest : List Text) :
    branch.toValue.at? (segments.flatMap place ++ rest) =
      (branch.at? segments).bind fun below => below.toValue.at? rest := by
  induction segments generalizing branch with
  | nil => rfl
  | cons segment others ih =>
      rw [List.flatMap_cons, List.append_assoc, place, List.cons_append, List.cons_append,
        List.nil_append, at?_path, at?_cons]
      cases Table.find? segment branch.paths with
      | none => rfl
      | some child => exact ih child

end RouteBranch

/-! ## The whole document -/

/-- The names of the fields that lead to what is shown for an address. -/
def Address.place : Address → List Text
  | .models => ["model"]
  | .model name => ["model", "model", name]
  | .creation name => ["model", "model", name, "action", createAction]
  | .action name act scope => ["model", "model", name, "action", act, scope.name]
  | .state name act condition scope =>
      ["model", "model", name, "action", act, "state", condition, scope.name]
  | .modules => ["module"]
  | .module name => ["module", "module", name]
  | .moduleMethod name method => ["module", "module", name, "method", method]
  | .route segments => "route" :: segments.flatMap RouteBranch.place
  | .routeMethod segments method =>
      "route" :: (segments.flatMap RouteBranch.place ++ (["method", method] : List Text))

namespace Rulebook

variable (book : Rulebook)

/-- Going down into the section about a resource. -/
theorem at?_section (resource : Resource) (hne : resource ≠ .blanket) (rest : List Text) :
    book.toValue.at? (resource.name :: rest) =
      (book.sectionValue? resource).bind (Value.at? rest) := by
  have found : Table.find? resource.name
      ([Resource.model, .module, .route].flatMap fun resource =>
        optionalField resource.name (book.sectionValue? resource)) =
          book.sectionValue? resource := by
    cases resource with
    | blanket => exact absurd rfl hne
    | _ => simp [Table.find?_append, find?_optionalField, Resource.name]
  rw [toValue, Value.at?_cons_obj, found]

/-- A section that is missing shows what an empty one shows: nothing. -/
theorem at?_models (first : Text) (rest : List Text) :
    book.toValue.at? ("model" :: first :: rest) =
      book.modelSection.toValue.at? (first :: rest) := by
  show book.toValue.at? (Resource.model.name :: first :: rest) = _
  rw [at?_section book .model (by decide), sectionValue?, modelSection]
  cases book.models <;> rfl

theorem at?_modules (first : Text) (rest : List Text) :
    book.toValue.at? ("module" :: first :: rest) =
      book.moduleSection.toValue.at? (first :: rest) := by
  show book.toValue.at? (Resource.module.name :: first :: rest) = _
  rw [at?_section book .module (by decide), sectionValue?, moduleSection]
  cases book.modules <;> rfl

theorem at?_routes (first : Text) (rest : List Text) :
    book.toValue.at? ("route" :: first :: rest) =
      book.routeRoot.toValue.at? (first :: rest) := by
  show book.toValue.at? (Resource.route.name :: first :: rest) = _
  rw [at?_section book .route (by decide), sectionValue?, routeRoot]
  cases book.routes <;> rfl

/-- Going down into an action of a model. -/
theorem at?_action (name act : Text) (rest : List Text) :
    book.toValue.at? ("model" :: "model" :: name :: "action" :: act :: rest) =
      (book.modelSection.action? name act).bind fun page => page.toValue.at? rest := by
  rw [at?_models, ModelSection.toValue, at?_page_entry (by decide), ModelSection.action?,
    Option.bind_assoc]
  refine congrArg (Option.bind _) (funext fun page => ?_)
  rw [ModelPage.toValue, at?_page_entry (by decide)]

/-- Going down the branches of routes. -/
theorem at?_branch (segments : List Text) (first : Text) (rest : List Text) :
    book.toValue.at?
        ("route" :: (segments.flatMap RouteBranch.place ++ first :: rest)) =
      (book.routeRoot.at? segments).bind fun branch => branch.toValue.at? (first :: rest) := by
  rw [← RouteBranch.at?_segments]
  cases segments with
  | nil => exact book.at?_routes first rest
  | cons segment others => exact book.at?_routes "path" _

/-- **The document shows every decision in its place**, and shows nothing where there is
none. -/
theorem at?_toValue (address : Address) (role : Text) :
    book.toValue.at? (address.place ++ (["allow", role] : List Text)) =
      (book.decisionAt address role).map Value.bool := by
  -- the places agree with the look-ups step by step, so each case goes down to one page
  cases address with
  | models =>
      show book.toValue.at? ("model" :: "allow" :: [role]) = _
      rw [at?_models, ModelSection.toValue, at?_page_allow (by decide)]
      rfl
  | model name =>
      show book.toValue.at? ("model" :: "model" :: name :: ["allow", role]) = _
      rw [at?_models, ModelSection.toValue, at?_page_entry (by decide), decisionAt, allowsAt]
      cases book.modelSection.models.find? name with
      | none => rfl
      | some page => exact at?_page_allow (by decide) page.allow _ _ role
  | creation name =>
      refine (book.at?_action name createAction ["allow", role]).trans ?_
      rw [decisionAt, allowsAt]
      cases book.modelSection.action? name createAction with
      | none => rfl
      | some page => exact page.at?_allow role
  | action name act scope =>
      refine (book.at?_action name act [scope.name, "allow", role]).trans ?_
      rw [decisionAt, allowsAt]
      cases book.modelSection.action? name act with
      | none => rfl
      | some page => exact page.at?_scope scope role
  | state name act condition scope =>
      refine (book.at?_action name act ["state", condition, scope.name, "allow", role]).trans ?_
      rw [decisionAt, allowsAt]
      cases book.modelSection.action? name act with
      | none => rfl
      | some page => exact page.at?_state condition scope role
  | modules =>
      show book.toValue.at? ("module" :: "allow" :: [role]) = _
      rw [at?_modules, ModuleSection.toValue, at?_page_allow (by decide)]
      rfl
  | module name =>
      show book.toValue.at? ("module" :: "module" :: name :: ["allow", role]) = _
      rw [at?_modules, ModuleSection.toValue, at?_page_entry (by decide), decisionAt, allowsAt]
      cases book.moduleSection.modules.find? name with
      | none => rfl
      | some page => exact at?_page_allow (by decide) page.allow _ _ role
  | moduleMethod name method =>
      show book.toValue.at?
        ("module" :: "module" :: name :: ["method", method, "allow", role]) = _
      rw [at?_modules, ModuleSection.toValue, at?_page_entry (by decide), decisionAt, allowsAt]
      cases book.moduleSection.modules.find? name with
      | none => rfl
      | some page =>
          refine (at?_page_entry (by decide) page.allow _ _ method ["allow", role]).trans ?_
          rw [Option.bind_some]
          cases page.methods.find? method with
          | none => rfl
          | some allows => exact allows.at?_toValue role
  | route segments =>
      refine (book.at?_branch segments "allow" [role]).trans ?_
      rw [decisionAt, allowsAt]
      cases book.routeRoot.at? segments with
      | none => rfl
      | some branch => exact branch.at?_allow role
  | routeMethod segments method =>
      have below := book.at?_branch segments "method" [method, "allow", role]
      rw [Address.place, List.cons_append, List.append_assoc]
      refine below.trans ?_
      rw [decisionAt, allowsAt]
      cases book.routeRoot.at? segments with
      | none => rfl
      | some branch => exact branch.at?_method method role

end Rulebook

end RoleAccess
