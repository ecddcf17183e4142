import RoleAccess.Rulebook.Basic
set_option autoImplicit false

/-! # Decisions after a change of the rulebook

Changing the decisions at one address changes them there and nowhere else. This holds of
every rulebook, since places on the way that are made by the change hold no decisions of
their own.
-/

namespace RoleAccess

/-! ## Decisions for one scope -/

@[simp] theorem ScopedAllows.get_empty (scope : Scope) : ({} : ScopedAllows).get scope = none := by
  cases scope <;> rfl

theorem ScopedAllows.get_modify (pair : ScopedAllows) (scope other : Scope)
    (f : Option Allows → Allows) :
    (pair.modify scope f).get other =
      if other = scope then some (f (pair.get scope)) else pair.get other := by
  cases scope <;> cases other <;> rfl

/-! ## Pages -/

theorem ModelSection.find?_modifyPage (part : ModelSection) (model other : Text)
    (f : ModelPage → ModelPage) :
    (part.modifyPage model f).models.find? other =
      if other = model then some (f ((part.models.find? model).getD {}))
      else part.models.find? other := by
  rw [modifyPage, Table.find?_upsert]

theorem ModelSection.action?_modifyAction (part : ModelSection) (model action : Text)
    (f : ActionPage → ActionPage) (m a : Text) :
    (part.modifyAction model action f).action? m a =
      if m = model ∧ a = action then some (f ((part.action? model action).getD {}))
      else part.action? m a := by
  rw [action?, modifyAction, find?_modifyPage]
  by_cases hm : m = model
  · subst hm
    by_cases ha : a = action
    · subst ha
      cases h : part.models.find? m <;> simp [action?, h, Table.find?_upsert]
    · cases h : part.models.find? m <;> simp [action?, h, Table.find?_upsert, ha]
  · simp [action?, hm]

/-- Changing one action of a model leaves the decisions about the model itself alone. -/
theorem ModelSection.allow_modifyAction (part : ModelSection) (model action : Text)
    (f : ActionPage → ActionPage) (m : Text) :
    ((part.modifyAction model action f).models.find? m).bind ModelPage.allow =
      (part.models.find? m).bind ModelPage.allow := by
  rw [modifyAction, find?_modifyPage]
  split
  · next h =>
      subst h
      cases part.models.find? m <;> rfl
  · rfl

/-- Changing the decisions about a model leaves those about its actions alone. -/
theorem ModelSection.action?_modifyPage (part : ModelSection) (model : Text)
    (f : ModelPage → ModelPage) (keeps : ∀ page, (f page).actions = page.actions)
    (m a : Text) : (part.modifyPage model f).action? m a = part.action? m a := by
  rw [action?, action?, find?_modifyPage]
  split
  · next h =>
      subst h
      cases part.models.find? m <;> simp [keeps]
  · rfl

/-- What is read off a page, and is nothing of an empty page, is left alone by a change of
another page, and by one of the same page that leaves it alone there. -/
theorem ModelSection.bind_action?_modifyAction {β : Type} (view : ActionPage → Option β)
    (view_empty : view {} = none) (part : ModelSection) (model action : Text)
    (f : ActionPage → ActionPage) (m a : Text)
    (keeps : m = model → a = action → ∀ page, view (f page) = view page) :
    ((part.modifyAction model action f).action? m a).bind view =
      (part.action? m a).bind view := by
  rw [action?_modifyAction]
  split
  · next h =>
      obtain ⟨rfl, rfl⟩ := h
      cases part.action? m a <;> simp [keeps rfl rfl, view_empty]
  · rfl

theorem ModuleSection.find?_modifyPage (part : ModuleSection) (module other : Text)
    (f : ModulePage → ModulePage) :
    (part.modifyPage module f).modules.find? other =
      if other = module then some (f ((part.modules.find? module).getD {}))
      else part.modules.find? other := by
  rw [modifyPage, Table.find?_upsert]

/-- The same for the pages of modules. -/
theorem ModuleSection.bind_find?_modifyPage {β : Type} (view : ModulePage → Option β)
    (view_empty : view {} = none) (part : ModuleSection) (module : Text)
    (f : ModulePage → ModulePage) (other : Text)
    (keeps : other = module → ∀ page, view (f page) = view page) :
    ((part.modifyPage module f).modules.find? other).bind view =
      (part.modules.find? other).bind view := by
  rw [find?_modifyPage]
  split
  · next h =>
      subst h
      cases part.modules.find? other <;> simp [keeps rfl, view_empty]
  · rfl

/-! ## Branches of routes -/

mutual

/-- What holds of a branch if it holds of the branches right below it holds of every branch. -/
theorem RouteBranch.induction {motive : RouteBranch → Prop}
    (step : ∀ branch : RouteBranch, (∀ entry ∈ branch.paths, motive entry.2) → motive branch) :
    (branch : RouteBranch) → motive branch
  | ⟨allow, methods, paths⟩ => step ⟨allow, methods, paths⟩ (RouteBranch.inductionBelow step paths)

theorem RouteBranch.inductionBelow {motive : RouteBranch → Prop}
    (step : ∀ branch : RouteBranch, (∀ entry ∈ branch.paths, motive entry.2) → motive branch) :
    (paths : List (Text × RouteBranch)) → ∀ entry ∈ paths, motive entry.2
  | [] => nofun
  | (_, branch) :: rest =>
      List.forall_mem_cons.mpr
        ⟨RouteBranch.induction step branch, RouteBranch.inductionBelow step rest⟩

end

namespace RouteBranch

@[simp] theorem at?_nil (branch : RouteBranch) : branch.at? [] = some branch := rfl

theorem at?_cons (branch : RouteBranch) (segment : Text) (rest : List Text) :
    branch.at? (segment :: rest) = (Table.find? segment branch.paths).bind (at? rest) := by
  cases h : Table.find? segment branch.paths <;> simp [at?, h]

/-- The branch at the end of the path that is changed. -/
theorem at?_modifyAt_self (f : RouteBranch → RouteBranch) (path : List Text)
    (branch : RouteBranch) :
    (branch.modifyAt f path).at? path = some (f ((branch.at? path).getD {})) := by
  induction path generalizing branch with
  | nil => rfl
  | cons segment rest ih =>
      rw [modifyAt, at?_cons, at?_cons, Table.find?_upsert, if_pos rfl, Option.bind_some, ih]
      cases h : Table.find? segment branch.paths with
      | some child => rfl
      | none =>
          cases rest with
          | nil => rfl
          | cons => rfl

/-- What a branch holds apart from the branches below it is left alone by a change at another
path, and by one at the same path that leaves it alone there, as long as the change keeps the
branches below its own. -/
theorem bind_at?_modifyAt {β : Type} (view : RouteBranch → Option β) (view_empty : view {} = none)
    (view_paths : ∀ branch paths, view { branch with paths := paths } = view branch)
    (f : RouteBranch → RouteBranch) (keepsPaths : ∀ branch, (f branch).paths = branch.paths)
    (path other : List Text) (keeps : other = path → ∀ branch, view (f branch) = view branch)
    (branch : RouteBranch) :
    ((branch.modifyAt f path).at? other).bind view = (branch.at? other).bind view := by
  induction path generalizing branch other with
  | nil =>
      cases other with
      | nil => exact keeps rfl branch
      | cons segment rest => rw [modifyAt, at?_cons, at?_cons, keepsPaths]
  | cons segment rest ih =>
      cases other with
      | nil => exact view_paths branch _
      | cons first others =>
          rw [modifyAt, at?_cons, at?_cons, Table.find?_upsert]
          by_cases hs : first = segment
          · subst hs
            rw [if_pos rfl, Option.bind_some, ih others fun same => keeps (by rw [same])]
            cases found : Table.find? first branch.paths with
            | some child => rfl
            | none =>
                cases others with
                | nil => simpa using view_empty
                | cons => rfl
          · rw [if_neg hs]

end RouteBranch

/-! ## The rulebook -/

namespace Rulebook

theorem allowsAt_modifyAt_self (book : Rulebook) (f : Option Allows → Allows)
    (address : Address) :
    (book.modifyAt f address).allowsAt address = some (f (book.allowsAt address)) := by
  cases address with
  | models => rfl
  | model name =>
      simp only [modifyAt, allowsAt, modelSection, Option.getD_some,
        ModelSection.find?_modifyPage, if_true]
      cases (book.models.getD {}).models.find? name <;> rfl
  | creation name =>
      simp only [modifyAt, allowsAt, modelSection, Option.getD_some,
        ModelSection.action?_modifyAction, and_self, if_true]
      cases (book.models.getD {}).action? name createAction <;> rfl
  | action name act scope =>
      simp only [modifyAt, allowsAt, modelSection, Option.getD_some,
        ModelSection.action?_modifyAction, and_self, if_true, Option.bind_some,
        ScopedAllows.get_modify]
      cases (book.models.getD {}).action? name act <;> cases scope <;> rfl
  | state name act condition scope =>
      simp only [modifyAt, allowsAt, modelSection, Option.getD_some,
        ModelSection.action?_modifyAction, and_self, if_true, Option.bind_some,
        Table.find?_upsert, ScopedAllows.get_modify]
      cases (book.models.getD {}).action? name act with
      | none => cases scope <;> rfl
      | some page =>
          simp only [Option.getD_some, Option.bind_some]
          cases page.states.find? condition <;> cases scope <;> rfl
  | modules => rfl
  | module name =>
      simp only [modifyAt, allowsAt, moduleSection, Option.getD_some,
        ModuleSection.find?_modifyPage, if_true]
      cases (book.modules.getD {}).modules.find? name <;> rfl
  | moduleMethod name method =>
      simp only [modifyAt, allowsAt, moduleSection, Option.getD_some,
        ModuleSection.find?_modifyPage, if_true, Option.bind_some, Table.find?_upsert]
      cases (book.modules.getD {}).modules.find? name <;> rfl
  | route segments =>
      simp only [modifyAt, allowsAt, routeRoot, Option.getD_some,
        RouteBranch.at?_modifyAt_self, Option.bind_some]
      cases (book.routes.getD {}).at? segments <;> rfl
  | routeMethod segments method =>
      simp only [modifyAt, allowsAt, routeRoot, Option.getD_some,
        RouteBranch.at?_modifyAt_self, Option.bind_some, Table.find?_upsert, if_true]
      cases (book.routes.getD {}).at? segments <;> rfl

/-! ### Everywhere else

A change of one page is read at the addresses on this page only. So of a change at an address
there is no more to say than what it does on the page of this address. -/

variable (book : Rulebook) (other : Address)

theorem allowsAt_modifyModel (name : Text) (f : ModelPage → ModelPage)
    (keepsActions : ∀ page, (f page).actions = page.actions)
    (keeps : other = .model name → ∀ page, (f page).allow = page.allow) :
    ({ book with models := some (book.modelSection.modifyPage name f) } : Rulebook).allowsAt other =
      book.allowsAt other := by
  cases other with
  | model n =>
      simp only [allowsAt, modelSection, Option.getD_some, ModelSection.find?_modifyPage]
      split
      · next same =>
          subst same
          cases (book.models.getD {}).models.find? n <;> simp [keeps rfl]
      · rfl
  | creation n | action n a c | state n a s c =>
      simp only [allowsAt, modelSection, Option.getD_some]
      rw [ModelSection.action?_modifyPage _ _ _ keepsActions]
  | _ => rfl

theorem allowsAt_modifyAction (name act : Text) (f : ActionPage → ActionPage)
    (keepsAllow : other = .creation name → ∀ page, (f page).allow = page.allow)
    (keepsScope : ∀ scope, other = .action name act scope →
      ∀ page, (f page).scopes.get scope = page.scopes.get scope)
    (keepsState : ∀ state scope, other = .state name act state scope → ∀ page,
      ((f page).states.find? state).bind (·.get scope) =
        (page.states.find? state).bind (·.get scope)) :
    ({ book with models := some (book.modelSection.modifyAction name act f) } : Rulebook).allowsAt
        other =
      book.allowsAt other := by
  cases other with
  | model n => exact ModelSection.allow_modifyAction _ _ _ _ _
  | creation n =>
      exact ModelSection.bind_action?_modifyAction _ rfl _ _ _ _ _ _
        fun sameName _ => keepsAllow (by rw [sameName])
  | action n a c =>
      exact ModelSection.bind_action?_modifyAction _ (ScopedAllows.get_empty c) _ _ _ _ _ _
        fun sameName sameAct => keepsScope c (by rw [sameName, sameAct])
  | state n a s c =>
      exact ModelSection.bind_action?_modifyAction _ rfl _ _ _ _ _ _
        fun sameName sameAct => keepsState s c (by rw [sameName, sameAct])
  | _ => rfl

theorem allowsAt_modifyModule (name : Text) (f : ModulePage → ModulePage)
    (keepsAllow : other = .module name → ∀ page, (f page).allow = page.allow)
    (keepsMethod : ∀ method, other = .moduleMethod name method →
      ∀ page, (f page).methods.find? method = page.methods.find? method) :
    ({ book with modules := some (book.moduleSection.modifyPage name f) } : Rulebook).allowsAt
        other =
      book.allowsAt other := by
  cases other with
  | module n =>
      exact ModuleSection.bind_find?_modifyPage _ rfl _ _ _ _
        fun same => keepsAllow (by rw [same])
  | moduleMethod n k =>
      exact ModuleSection.bind_find?_modifyPage _ rfl _ _ _ _
        fun same => keepsMethod k (by rw [same])
  | _ => rfl

theorem allowsAt_modifyBranch (segments : List Text) (f : RouteBranch → RouteBranch)
    (keepsPaths : ∀ branch, (f branch).paths = branch.paths)
    (keepsAllow : other = .route segments → ∀ branch, (f branch).allow = branch.allow)
    (keepsMethod : ∀ method, other = .routeMethod segments method →
      ∀ branch, (f branch).methods.find? method = branch.methods.find? method) :
    ({ book with routes := some (book.routeRoot.modifyAt f segments) } : Rulebook).allowsAt other =
      book.allowsAt other := by
  cases other with
  | route path =>
      exact RouteBranch.bind_at?_modifyAt _ rfl (fun _ _ => rfl) _ keepsPaths _ _
        (fun same => keepsAllow (by rw [same])) _
  | routeMethod path k =>
      exact RouteBranch.bind_at?_modifyAt _ rfl (fun _ _ => rfl) _ keepsPaths _ _
        (fun same => keepsMethod k (by rw [same])) _
  | _ => rfl

theorem allowsAt_modifyAt_of_ne (f : Option Allows → Allows) (address : Address)
    (h : other ≠ address) : (book.modifyAt f address).allowsAt other = book.allowsAt other := by
  cases address with
  | models =>
      cases other with
      | models => exact absurd rfl h
      | _ => rfl
  | model name =>
      exact allowsAt_modifyModel book other name _ (fun _ => rfl) fun same => absurd same h
  | creation name =>
      exact allowsAt_modifyAction book other name createAction _ (fun same => absurd same h)
        (fun _ _ _ => rfl) (fun _ _ _ _ => rfl)
  | action name act scope =>
      refine allowsAt_modifyAction book other name act _ (fun _ _ => rfl) ?_ (fun _ _ _ _ => rfl)
      intro c same page
      have hc : c ≠ scope := fun e => h (by rw [same, e])
      rw [ScopedAllows.get_modify, if_neg hc]
  | state name act condition scope =>
      refine allowsAt_modifyAction book other name act _ (fun _ _ => rfl) (fun _ _ _ => rfl) ?_
      intro s c same page
      rw [Table.find?_upsert]
      split
      · next hs =>
          have hc : c ≠ scope := fun e => h (by rw [same, hs, e])
          rw [Option.bind_some, ScopedAllows.get_modify, if_neg hc, hs]
          cases page.states.find? condition <;> simp
      · rfl
  | modules =>
      cases other with
      | modules => exact absurd rfl h
      | _ => rfl
  | module name =>
      exact allowsAt_modifyModule book other name _ (fun same => absurd same h)
        (fun _ _ _ => rfl)
  | moduleMethod name method =>
      refine allowsAt_modifyModule book other name _ (fun _ _ => rfl) ?_
      intro k same page
      rw [Table.find?_upsert, if_neg fun e => h (by rw [same, e])]
  | route segments =>
      exact allowsAt_modifyBranch book other segments _ (fun _ => rfl)
        (fun same => absurd same h) (fun _ _ _ => rfl)
  | routeMethod segments method =>
      refine allowsAt_modifyBranch book other segments _ (fun _ => rfl) (fun _ _ => rfl) ?_
      intro k same branch
      rw [Table.find?_upsert, if_neg fun e => h (by rw [same, e])]

end Rulebook

end RoleAccess
