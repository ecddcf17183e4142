import RoleAccess.Proofs.Tidiness
set_option autoImplicit false

/-! # Tidy rulebooks are told by their decisions

Two tidy rulebooks that hold the same decision at every address for every role are the same
(`Rulebook.Tidy.ext`). Sorted tables are told by their look-ups, and since nothing empty is
kept, what is missing on one side cannot be an empty page or branch on the other. Pages of
actions have decisions about the action as a whole, which have an address for creation only;
rules give none for other actions, so these are left out by assumption.
-/

namespace RoleAccess

variable {α β : Type}

/-! ## Values that are not empty -/

/-- Where empty values are not kept, it does not matter to put one in place of nothing. -/
theorem eq_of_getD (empty : α) {found other : Option α} (present : ∀ v ∈ found, v ≠ empty)
    (present' : ∀ v ∈ other, v ≠ empty) (same : found.getD empty = other.getD empty) :
    found = other := by
  cases found with
  | none =>
      cases other with
      | none => rfl
      | some w => exact absurd same.symm (present' w rfl)
  | some v =>
      cases other with
      | none => exact absurd same (present v rfl)
      | some w => exact congrArg some same

/-- Tidy values that are not empty are the same if they are the same with an empty one in place
of nothing. -/
theorem eq_of_tidy {tidy : α → Prop} {empty : α} (tidy_empty : tidy empty)
    {found other : Option α} (good : ∀ v ∈ found, tidy v ∧ v ≠ empty)
    (good' : ∀ v ∈ other, tidy v ∧ v ≠ empty)
    (same : tidy (found.getD empty) → tidy (other.getD empty) →
      found.getD empty = other.getD empty) : found = other :=
  eq_of_getD empty (fun v mem => (good v mem).2) (fun v mem => (good' v mem).2)
    (same (tidy_getD tidy_empty found good) (tidy_getD tidy_empty other good'))

/-- What is seen in nothing is what is seen in the empty value. -/
theorem view_getD_eq {empty : α} (view : α → Option β) (unseen : view empty = none)
    {found other : Option α} (same : found.bind view = other.bind view) :
    view (found.getD empty) = view (other.getD empty) := by
  have seen (o : Option α) : view (o.getD empty) = o.bind view := by
    cases o with
    | none => exact unseen
    | some v => rfl
  rw [seen, seen, same]

/-- Decisions that rules give at an address are told by what they say to each role. -/
theorem Allows.eq_of_find? {allow other : Option Allows} (stored : ∀ a ∈ allow, a.Stored)
    (stored' : ∀ a ∈ other, a.Stored)
    (same : ∀ role, allow.bind (Table.find? role) = other.bind (Table.find? role)) :
    allow = other := by
  refine @eq_of_tidy Allows Table.Sorted [] Table.sorted_nil _ _ stored stored' ?_
  intro sorted sorted'
  exact sorted.ext sorted' fun role => view_getD_eq (Table.find? role) rfl (same role)

/-! ## Pages -/

theorem ScopedAllows.eq_of_get {pair other : ScopedAllows}
    (same : ∀ scope, pair.get scope = other.get scope) : pair = other := by
  obtain ⟨own, any⟩ := pair
  obtain ⟨own', any'⟩ := other
  obtain rfl : own = own' := same .own
  obtain rfl : any = any' := same .any
  rfl

theorem ActionPage.Tidy.ext {page other : ActionPage} (tidy : page.Tidy) (tidy' : other.Tidy)
    (allow : page.allow = other.allow)
    (scopes : ∀ scope, page.scopes.get scope = other.scopes.get scope)
    (states : ∀ state scope, ((page.states.find? state).bind fun pair => pair.get scope) =
      (other.states.find? state).bind fun pair => pair.get scope) : page = other := by
  have sameStates : page.states = other.states := by
    refine tidy.states.sorted.ext tidy'.states.sorted fun state => ?_
    refine eq_of_tidy ScopedAllows.tidy_empty (tidy.states.find? state)
      (tidy'.states.find? state) fun _ _ => ?_
    refine ScopedAllows.eq_of_get fun scope => ?_
    exact view_getD_eq (fun pair : ScopedAllows => pair.get scope) (by cases scope <;> rfl)
      (states state scope)
  calc page = ⟨page.allow, page.scopes, page.states⟩ := rfl
    _ = ⟨other.allow, other.scopes, other.states⟩ := by
      rw [allow, ScopedAllows.eq_of_get scopes, sameStates]

theorem ModelPage.Tidy.ext {page other : ModelPage} (tidy : page.Tidy) (tidy' : other.Tidy)
    (allow : page.allow = other.allow)
    (actions : ∀ action, page.actions.find? action = other.actions.find? action) :
    page = other := by
  calc page = ⟨page.allow, page.actions⟩ := rfl
    _ = ⟨other.allow, other.actions⟩ := by
      rw [allow, tidy.actions.sorted.ext tidy'.actions.sorted actions]

theorem ModulePage.Tidy.ext {page other : ModulePage} (tidy : page.Tidy) (tidy' : other.Tidy)
    (allow : page.allow = other.allow)
    (methods : ∀ method, page.methods.find? method = other.methods.find? method) :
    page = other := by
  calc page = ⟨page.allow, page.methods⟩ := rfl
    _ = ⟨other.allow, other.methods⟩ := by
      rw [allow, tidy.methods.sorted.ext tidy'.methods.sorted methods]

/-! ## Sections -/

namespace ModelSection.Tidy

variable {part other : ModelSection} (tidy : part.Tidy) (tidy' : other.Tidy)

include tidy in
theorem action? (name act : Text) :
    ∀ page ∈ part.action? name act, page.Tidy ∧ page ≠ {} := by
  intro page mem
  obtain ⟨parent, found, mem⟩ := Option.bind_eq_some_iff.mp mem
  exact (tidy.models.find? name parent found).1.actions.find? act page mem

include tidy tidy'

theorem action?_eq (name act : Text)
    (allow : (part.action? name act).bind ActionPage.allow =
      (other.action? name act).bind ActionPage.allow)
    (scopes : ∀ scope, ((part.action? name act).bind fun page => page.scopes.get scope) =
      (other.action? name act).bind fun page => page.scopes.get scope)
    (states : ∀ state scope,
      ((part.action? name act).bind fun page =>
        (page.states.find? state).bind fun pair => pair.get scope) =
      (other.action? name act).bind fun page =>
        (page.states.find? state).bind fun pair => pair.get scope) :
    part.action? name act = other.action? name act := by
  refine eq_of_tidy ActionPage.tidy_empty (tidy.action? name act) (tidy'.action? name act)
    fun page page' => page.ext page' ?_ (fun scope => ?_) (fun state scope => ?_)
  · exact view_getD_eq ActionPage.allow rfl allow
  · exact view_getD_eq (fun page : ActionPage => page.scopes.get scope) (by cases scope <;> rfl)
      (scopes scope)
  · exact view_getD_eq
      (fun page : ActionPage => (page.states.find? state).bind fun pair => pair.get scope) rfl
      (states state scope)

theorem ext (allow : part.allow = other.allow)
    (pages : ∀ name, (part.models.find? name).bind ModelPage.allow =
      (other.models.find? name).bind ModelPage.allow)
    (actions : ∀ name act, part.action? name act = other.action? name act) : part = other := by
  have sameModels : part.models = other.models := by
    refine tidy.models.sorted.ext tidy'.models.sorted fun name => ?_
    refine eq_of_tidy ModelPage.tidy_empty (tidy.models.find? name) (tidy'.models.find? name)
      fun page page' => page.ext page' ?_ (fun act => ?_)
    · exact view_getD_eq ModelPage.allow rfl (pages name)
    · exact view_getD_eq (fun page : ModelPage => page.actions.find? act) rfl (actions name act)
  calc part = ⟨part.allow, part.models⟩ := rfl
    _ = ⟨other.allow, other.models⟩ := by rw [allow, sameModels]

end ModelSection.Tidy

theorem ModuleSection.Tidy.ext {part other : ModuleSection} (tidy : part.Tidy)
    (tidy' : other.Tidy) (allow : part.allow = other.allow)
    (pages : ∀ name, (part.modules.find? name).bind ModulePage.allow =
      (other.modules.find? name).bind ModulePage.allow)
    (methods : ∀ name method,
      ((part.modules.find? name).bind fun page => page.methods.find? method) =
        (other.modules.find? name).bind fun page => page.methods.find? method) :
    part = other := by
  have sameModules : part.modules = other.modules := by
    refine tidy.modules.sorted.ext tidy'.modules.sorted fun name => ?_
    refine eq_of_tidy ModulePage.tidy_empty (tidy.modules.find? name) (tidy'.modules.find? name)
      fun page page' => page.ext page' ?_ (fun method => ?_)
    · exact view_getD_eq ModulePage.allow rfl (pages name)
    · exact view_getD_eq (fun page : ModulePage => page.methods.find? method) rfl
        (methods name method)
  calc part = ⟨part.allow, part.modules⟩ := rfl
    _ = ⟨other.allow, other.modules⟩ := by rw [allow, sameModules]

/-! ## Branches of routes -/

namespace RouteBranch.Tidy

variable {branch : RouteBranch}

theorem at? (tidy : branch.Tidy) (segments : List Text) :
    ∀ below ∈ branch.at? segments, below.Tidy := by
  induction segments generalizing branch with
  | nil =>
      intro below mem
      cases mem
      exact tidy
  | cons segment rest ih =>
      intro below mem
      rw [at?_cons] at mem
      obtain ⟨child, found, mem⟩ := Option.bind_eq_some_iff.mp mem
      obtain ⟨_, -, -, -, tidyBelow, -⟩ := tidy
      exact ih (tidyBelow _ (Table.mem_of_find? _ _ _ found)) below mem

/-- A branch in which nothing is seen at any path is empty. -/
theorem eq_empty (tidy : branch.Tidy)
    (allow : ∀ segments, (branch.at? segments).bind RouteBranch.allow = none)
    (methods : ∀ segments method,
      ((branch.at? segments).bind fun below => below.methods.find? method) = none) :
    branch = {} := by
  induction tidy with
  | intro branch stored held sorted below present ih =>
      obtain ⟨allow', methods', paths⟩ := branch
      obtain rfl : allow' = none := allow []
      obtain rfl : methods' = [] := held.sorted.ext Table.sorted_nil (methods [])
      cases paths with
      | nil => rfl
      | cons entry rest =>
          -- the first child would be empty as well, but no empty child is kept
          have child (segments : List Text) :
              (RouteBranch.mk none [] (entry :: rest)).at? (entry.1 :: segments) =
                entry.2.at? segments := by
            rw [at?_cons, Table.find?, if_pos rfl, Option.bind_some]
          have allowBelow (segments : List Text) :
              (entry.2.at? segments).bind RouteBranch.allow = none :=
            child segments ▸ allow (entry.1 :: segments)
          have methodsBelow (segments : List Text) (method : Text) :
              ((entry.2.at? segments).bind fun below => below.methods.find? method) = none :=
            child segments ▸ methods (entry.1 :: segments) method
          exact absurd (ih entry List.mem_cons_self allowBelow methodsBelow)
            (present entry List.mem_cons_self)

theorem ext (tidy : branch.Tidy) :
    ∀ other : RouteBranch, other.Tidy →
      (∀ segments, (branch.at? segments).bind RouteBranch.allow =
        (other.at? segments).bind RouteBranch.allow) →
      (∀ segments method, ((branch.at? segments).bind fun below => below.methods.find? method) =
        (other.at? segments).bind fun below => below.methods.find? method) →
      branch = other := by
  induction tidy with
  | intro branch stored held sorted below present ih =>
      intro other tidy' allow methods
      have sameAllow : branch.allow = other.allow := allow []
      obtain ⟨_, -, held', sorted', below', present'⟩ := tidy'
      have sameMethods : branch.methods = other.methods :=
        held.sorted.ext held'.sorted (methods [])
      have samePaths : branch.paths = other.paths := by
        refine Table.Sorted.ext sorted sorted' fun segment => ?_
        have allowBelow (segments : List Text) := allow (segment :: segments)
        have methodsBelow (segments : List Text) := methods (segment :: segments)
        simp only [at?_cons] at allowBelow methodsBelow
        cases found : Table.find? segment branch.paths with
        | none =>
            cases found' : Table.find? segment other.paths with
            | none => rfl
            | some child' =>
                rw [found, found'] at allowBelow methodsBelow
                have mem := Table.mem_of_find? _ _ _ found'
                exact absurd ((below' _ mem).eq_empty (fun segments => (allowBelow segments).symm)
                  fun segments method => (methodsBelow segments method).symm) (present' _ mem)
        | some child =>
            have mem := Table.mem_of_find? _ _ _ found
            cases found' : Table.find? segment other.paths with
            | none =>
                rw [found, found'] at allowBelow methodsBelow
                exact absurd ((below _ mem).eq_empty allowBelow methodsBelow) (present _ mem)
            | some child' =>
                rw [found, found'] at allowBelow methodsBelow
                have mem' := Table.mem_of_find? _ _ _ found'
                exact congrArg some (ih _ mem child' (below' _ mem') allowBelow methodsBelow)
      obtain ⟨allow, methods, paths⟩ := branch
      obtain ⟨allow', methods', paths'⟩ := other
      cases sameAllow
      cases sameMethods
      cases samePaths
      rfl

end RouteBranch.Tidy

/-! ## Rulebooks -/

namespace Rulebook

/-- In a tidy rulebook, the decisions at every address are kept as rules give them. -/
theorem Tidy.stored_allowsAt {book : Rulebook} (tidy : book.Tidy) (address : Address) :
    ∀ allows ∈ book.allowsAt address, allows.Stored := by
  intro allows mem
  cases address with
  | models => exact tidy.modelSection.allow allows mem
  | model name =>
      obtain ⟨page, found, mem⟩ := Option.bind_eq_some_iff.mp mem
      exact (tidy.modelSection.models.find? name page found).1.allow allows mem
  | creation name =>
      obtain ⟨page, found, mem⟩ := Option.bind_eq_some_iff.mp mem
      exact (tidy.modelSection.action? name createAction page found).1.allow allows mem
  | action name act scope =>
      obtain ⟨page, found, mem⟩ := Option.bind_eq_some_iff.mp mem
      exact (tidy.modelSection.action? name act page found).1.scopes scope allows mem
  | state name act condition scope =>
      obtain ⟨page, found, mem⟩ := Option.bind_eq_some_iff.mp mem
      obtain ⟨pair, among, mem⟩ := Option.bind_eq_some_iff.mp mem
      have tidyPage := (tidy.modelSection.action? name act page found).1
      exact (tidyPage.states.find? condition pair among).1 scope allows mem
  | modules => exact tidy.moduleSection.allow allows mem
  | module name =>
      obtain ⟨page, found, mem⟩ := Option.bind_eq_some_iff.mp mem
      exact (tidy.moduleSection.modules.find? name page found).1.allow allows mem
  | moduleMethod name method =>
      obtain ⟨page, found, mem⟩ := Option.bind_eq_some_iff.mp mem
      exact (tidy.moduleSection.modules.find? name page found).1.methods.find? method allows mem
  | route segments =>
      obtain ⟨branch, found, mem⟩ := Option.bind_eq_some_iff.mp mem
      obtain ⟨_, allow, -, -, -, -⟩ := tidy.routeRoot.at? segments branch found
      exact allow allows mem
  | routeMethod segments method =>
      obtain ⟨branch, found, mem⟩ := Option.bind_eq_some_iff.mp mem
      obtain ⟨_, -, methods, -, -, -⟩ := tidy.routeRoot.at? segments branch found
      exact methods.find? method allows mem

/-- The rulebook gives no decision about an action as a whole, apart from creation. -/
def DecidesNoAction (book : Rulebook) : Prop :=
  ∀ model action, action ≠ createAction →
    (book.modelSection.action? model action).bind ActionPage.allow = none

/-- **Tidy rulebooks are told by their decisions.** -/
theorem Tidy.ext {book other : Rulebook} (tidy : book.Tidy) (tidy' : other.Tidy)
    (none : book.DecidesNoAction) (none' : other.DecidesNoAction)
    (same : ∀ address role, book.decisionAt address role = other.decisionAt address role) :
    book = other := by
  have sameAllows (address : Address) : book.allowsAt address = other.allowsAt address :=
    Allows.eq_of_find? (tidy.stored_allowsAt address) (tidy'.stored_allowsAt address)
      (same address)
  have models : book.modelSection = other.modelSection := by
    refine tidy.modelSection.ext tidy'.modelSection (sameAllows .models)
      (fun name => sameAllows (.model name)) fun name act => ?_
    refine tidy.modelSection.action?_eq tidy'.modelSection name act ?_
      (fun scope => sameAllows (.action name act scope))
      fun state scope => sameAllows (.state name act state scope)
    by_cases creation : act = createAction
    · rw [creation]
      exact sameAllows (.creation name)
    · rw [none name act creation, none' name act creation]
  have modules : book.moduleSection = other.moduleSection :=
    tidy.moduleSection.ext tidy'.moduleSection (sameAllows .modules)
      (fun name => sameAllows (.module name))
      fun name method => sameAllows (.moduleMethod name method)
  have routes : book.routeRoot = other.routeRoot :=
    tidy.routeRoot.ext other.routeRoot tidy'.routeRoot
      (fun segments => sameAllows (.route segments))
      fun segments method => sameAllows (.routeMethod segments method)
  have sameModels : book.models = other.models :=
    eq_of_tidy ModelSection.tidy_empty tidy.models tidy'.models fun _ _ => models
  have sameModules : book.modules = other.modules :=
    eq_of_tidy ModuleSection.tidy_empty tidy.modules tidy'.modules fun _ _ => modules
  have sameRoutes : book.routes = other.routes :=
    eq_of_tidy RouteBranch.tidy_empty tidy.routes tidy'.routes fun _ _ => routes
  calc book = ⟨book.models, book.modules, book.routes⟩ := rfl
    _ = ⟨other.models, other.modules, other.routes⟩ := by
      rw [sameModels, sameModules, sameRoutes]

/-- Rulebooks of rules are told by their decisions. -/
theorem enactAll_ext (values others : List Value)
    (same : ∀ address role, (enactAll {} values).book.decisionAt address role =
      (enactAll {} others).book.decisionAt address role) :
    (enactAll {} values).book = (enactAll {} others).book :=
  (tidy_enactAll values).ext (tidy_enactAll others) (allow_action?_enactAll values)
    (allow_action?_enactAll others) same

end Rulebook

end RoleAccess
