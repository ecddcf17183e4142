import RoleAccess.Proofs.Batches
import RoleAccess.Proofs.SortedTables
set_option autoImplicit false

/-! # Rules make tidy rulebooks

A rulebook is tidy if all of its tables are sorted and nothing empty is kept in it: no
section, page, branch or table of decisions without a decision in it or below. Giving a
decision to at least one role keeps a rulebook tidy, and every rule that can be read names a
role, so the rulebook of any rules is tidy.
-/

namespace RoleAccess

variable {α : Type}

/-! ## Tables of tidy values -/

/-- A sorted table of values that are all good. -/
structure Table.Holds (good : α → Prop) (table : Table α) : Prop where
  sorted : table.Sorted
  values : ∀ entry ∈ table, good entry.2

namespace Table.Holds

variable {good : α → Prop} {table : Table α}

theorem nil : Table.Holds good [] := ⟨sorted_nil, nofun⟩

theorem find? (holds : table.Holds good) (key : Text) :
    ∀ value ∈ Table.find? key table, good value := by
  intro value found
  exact holds.values _ (mem_of_find? table key value found)

theorem upsert (holds : table.Holds good) (key : Text) (f : Option α → α)
    (kept : ∀ found : Option α, (∀ value ∈ found, good value) → good (f found)) :
    (table.upsert key f).Holds good where
  sorted := holds.sorted.upsert key f
  values := by
    intro entry mem
    obtain rfl | mem := mem_upsert table key f entry mem
    · exact kept _ (holds.find? key)
    · exact holds.values entry mem

end Table.Holds

/-- A value that is there satisfies what the empty one does as well. -/
theorem tidy_getD {tidy : α → Prop} {empty : α} (tidy_empty : tidy empty) (found : Option α)
    (good : ∀ value ∈ found, tidy value ∧ value ≠ empty) : tidy (found.getD empty) := by
  cases found with
  | none => exact tidy_empty
  | some value => exact (good value rfl).1

/-- Something that is seen in a value tells it from the empty one. -/
theorem ne_of_seen {β : Type} (view : α → Option β) {value empty : α} {b : β}
    (seen : view value = some b) (unseen : view empty = none) : value ≠ empty := by
  rintro rfl
  rw [unseen] at seen
  cases seen

/-! ## Tidy pages -/

/-- Decisions at an address as rules give them: sorted by role, and at least one. -/
def Allows.Stored (allows : Allows) : Prop := Table.Sorted allows ∧ allows ≠ []

/-- The decisions for each scope are kept as rules give them. -/
def ScopedAllows.Tidy (pair : ScopedAllows) : Prop :=
  ∀ scope, ∀ allows ∈ pair.get scope, allows.Stored

structure ActionPage.Tidy (page : ActionPage) : Prop where
  allow : ∀ allows ∈ page.allow, allows.Stored
  scopes : page.scopes.Tidy
  states : page.states.Holds fun pair => pair.Tidy ∧ pair ≠ {}

structure ModelPage.Tidy (page : ModelPage) : Prop where
  allow : ∀ allows ∈ page.allow, allows.Stored
  actions : page.actions.Holds fun action => action.Tidy ∧ action ≠ {}

structure ModelSection.Tidy (part : ModelSection) : Prop where
  allow : ∀ allows ∈ part.allow, allows.Stored
  models : part.models.Holds fun page => page.Tidy ∧ page ≠ {}

structure ModulePage.Tidy (page : ModulePage) : Prop where
  allow : ∀ allows ∈ page.allow, allows.Stored
  methods : page.methods.Holds Allows.Stored

structure ModuleSection.Tidy (part : ModuleSection) : Prop where
  allow : ∀ allows ∈ part.allow, allows.Stored
  modules : part.modules.Holds fun page => page.Tidy ∧ page ≠ {}

inductive RouteBranch.Tidy : RouteBranch → Prop
  | intro (branch : RouteBranch) (allow : ∀ allows ∈ branch.allow, allows.Stored)
      (methods : branch.methods.Holds Allows.Stored) (sorted : Table.Sorted branch.paths)
      (below : ∀ entry ∈ branch.paths, RouteBranch.Tidy entry.2)
      (present : ∀ entry ∈ branch.paths, entry.2 ≠ {}) : RouteBranch.Tidy branch

/-- All tables are sorted, and nothing empty is kept. -/
structure Rulebook.Tidy (book : Rulebook) : Prop where
  models : ∀ part ∈ book.models, part.Tidy ∧ part ≠ {}
  modules : ∀ part ∈ book.modules, part.Tidy ∧ part ≠ {}
  routes : ∀ root ∈ book.routes, root.Tidy ∧ root ≠ {}

/-! ## Nothing is tidy -/

theorem ScopedAllows.tidy_empty : ({} : ScopedAllows).Tidy := by
  intro scope allows mem
  cases scope <;> cases mem

theorem ActionPage.tidy_empty : ({} : ActionPage).Tidy := ⟨nofun, ScopedAllows.tidy_empty, .nil⟩

theorem ModelPage.tidy_empty : ({} : ModelPage).Tidy := ⟨nofun, .nil⟩

theorem ModelSection.tidy_empty : ({} : ModelSection).Tidy := ⟨nofun, .nil⟩

theorem ModulePage.tidy_empty : ({} : ModulePage).Tidy := ⟨nofun, .nil⟩

theorem ModuleSection.tidy_empty : ({} : ModuleSection).Tidy := ⟨nofun, .nil⟩

theorem RouteBranch.tidy_empty : ({} : RouteBranch).Tidy :=
  ⟨_, nofun, .nil, Table.sorted_nil, nofun, nofun⟩

theorem Rulebook.tidy_empty : ({} : Rulebook).Tidy := ⟨nofun, nofun, nofun⟩

namespace Rulebook.Tidy

variable {book : Rulebook} (tidy : book.Tidy)

include tidy

theorem modelSection : book.modelSection.Tidy := tidy_getD ModelSection.tidy_empty _ tidy.models

theorem moduleSection : book.moduleSection.Tidy :=
  tidy_getD ModuleSection.tidy_empty _ tidy.modules

theorem routeRoot : book.routeRoot.Tidy := tidy_getD RouteBranch.tidy_empty _ tidy.routes

end Rulebook.Tidy

/-! ## Writes keep what is tidy -/

/-- What is written is kept as rules give it, if what was there before was. -/
def WritesStored (f : Option Allows → Allows) : Prop :=
  ∀ allow : Option Allows, (∀ allows ∈ allow, allows.Stored) → (f allow).Stored

theorem Allows.writesStored_assign (roles : List Text) (some : roles ≠ []) (allow : Bool) :
    WritesStored (Allows.assign roles allow) := by
  intro allows stored
  constructor
  · have start : Table.Sorted (allows.getD []) := by
      cases allows with
      | none => exact Table.sorted_nil
      | some allows => exact (stored allows rfl).1
    -- each role is written into a sorted table
    rw [assign]
    generalize allows.getD [] = table at start
    clear some
    induction roles generalizing table with
    | nil => exact start
    | cons role rest ih => exact ih _ (start.upsert role _)
  · obtain ⟨role, mem⟩ := List.exists_mem_of_ne_nil roles some
    have given : (assign roles allow allows).find? role = Option.some allow := by
      rw [find?_assign, if_pos mem]
    exact ne_of_seen (Table.find? role) given rfl

section Writes

variable {f : Option Allows → Allows} (writes : WritesStored f)

include writes

theorem WritesStored.some {allow : Option Allows} (stored : ∀ allows ∈ allow, allows.Stored) :
    ∀ allows ∈ Option.some (f allow), allows.Stored := by
  intro allows mem
  cases mem
  exact writes allow stored

theorem ScopedAllows.Tidy.modify {pair : ScopedAllows} (tidy : pair.Tidy) (scope : Scope) :
    (pair.modify scope f).Tidy ∧ pair.modify scope f ≠ {} := by
  constructor
  · intro other allows mem
    rw [get_modify] at mem
    split at mem
    · exact writes.some (tidy scope) allows mem
    · exact tidy other allows mem
  · have seen : (pair.modify scope f).get scope = some (f (pair.get scope)) := by
      rw [get_modify, if_pos rfl]
    exact ne_of_seen (fun pair => pair.get scope) seen (by cases scope <;> rfl)

namespace ActionPage.Tidy

variable {page : ActionPage} (tidy : page.Tidy)

include tidy

theorem giveAllow : { page with allow := some (f page.allow) }.Tidy ∧
    { page with allow := some (f page.allow) } ≠ ({} : ActionPage) :=
  ⟨{ tidy with allow := writes.some tidy.allow }, ne_of_seen ActionPage.allow rfl rfl⟩

theorem giveScope (scope : Scope) :
    { page with scopes := page.scopes.modify scope f }.Tidy ∧
      { page with scopes := page.scopes.modify scope f } ≠ ({} : ActionPage) := by
  obtain ⟨scopes, present⟩ := tidy.scopes.modify writes scope
  exact ⟨{ tidy with scopes }, fun same => present (congrArg ActionPage.scopes same)⟩

theorem giveState (state : Text) (scope : Scope) :
    let states := page.states.upsert state fun pair => (pair.getD {}).modify scope f
    { page with states }.Tidy ∧ { page with states } ≠ ({} : ActionPage) := by
  intro states
  have held : states.Holds fun pair => pair.Tidy ∧ pair ≠ {} :=
    tidy.states.upsert state _ fun found good =>
      (tidy_getD ScopedAllows.tidy_empty found good).modify writes scope
  have seen := Table.find?_upsert_self page.states state
    fun pair => (pair.getD {}).modify scope f
  exact ⟨{ tidy with states := held },
    ne_of_seen (fun page => page.states.find? state) seen rfl⟩

end ActionPage.Tidy

theorem ModelPage.Tidy.giveAllow {page : ModelPage} (tidy : page.Tidy) :
    { page with allow := some (f page.allow) }.Tidy ∧
      { page with allow := some (f page.allow) } ≠ ({} : ModelPage) :=
  ⟨{ tidy with allow := writes.some tidy.allow }, ne_of_seen ModelPage.allow rfl rfl⟩

theorem ModelSection.Tidy.giveAllow {part : ModelSection} (tidy : part.Tidy) :
    { part with allow := some (f part.allow) }.Tidy ∧
      { part with allow := some (f part.allow) } ≠ ({} : ModelSection) :=
  ⟨{ tidy with allow := writes.some tidy.allow }, ne_of_seen ModelSection.allow rfl rfl⟩

theorem ModulePage.Tidy.giveAllow {page : ModulePage} (tidy : page.Tidy) :
    { page with allow := some (f page.allow) }.Tidy ∧
      { page with allow := some (f page.allow) } ≠ ({} : ModulePage) :=
  ⟨{ tidy with allow := writes.some tidy.allow }, ne_of_seen ModulePage.allow rfl rfl⟩

theorem ModulePage.Tidy.giveMethod {page : ModulePage} (tidy : page.Tidy) (method : Text) :
    { page with methods := page.methods.upsert method f }.Tidy ∧
      { page with methods := page.methods.upsert method f } ≠ ({} : ModulePage) :=
  ⟨{ tidy with methods := tidy.methods.upsert method f writes },
    ne_of_seen (fun page => page.methods.find? method) (Table.find?_upsert_self _ _ _) rfl⟩

theorem ModuleSection.Tidy.giveAllow {part : ModuleSection} (tidy : part.Tidy) :
    { part with allow := some (f part.allow) }.Tidy ∧
      { part with allow := some (f part.allow) } ≠ ({} : ModuleSection) :=
  ⟨{ tidy with allow := writes.some tidy.allow }, ne_of_seen ModuleSection.allow rfl rfl⟩

namespace RouteBranch.Tidy

variable {branch : RouteBranch} (tidy : branch.Tidy)

include tidy

theorem giveAllow : { branch with allow := some (f branch.allow) }.Tidy ∧
    { branch with allow := some (f branch.allow) } ≠ ({} : RouteBranch) := by
  obtain ⟨_, allow, methods, sorted, below, present⟩ := tidy
  exact ⟨.intro _ (writes.some allow) methods sorted below present,
    ne_of_seen RouteBranch.allow rfl rfl⟩

theorem giveMethod (method : Text) :
    { branch with methods := branch.methods.upsert method f }.Tidy ∧
      { branch with methods := branch.methods.upsert method f } ≠ ({} : RouteBranch) := by
  obtain ⟨_, allow, methods, sorted, below, present⟩ := tidy
  exact ⟨.intro _ allow (methods.upsert method f writes) sorted below present,
    ne_of_seen (fun branch => branch.methods.find? method) (Table.find?_upsert_self _ _ _) rfl⟩

end RouteBranch.Tidy

end Writes

/-! ## Changes of what is below -/

theorem ModelSection.Tidy.modifyPage {part : ModelSection} (tidy : part.Tidy) (model : Text)
    (g : ModelPage → ModelPage) (kept : ∀ page, page.Tidy → (g page).Tidy ∧ g page ≠ {}) :
    (part.modifyPage model g).Tidy ∧ part.modifyPage model g ≠ {} := by
  have held := tidy.models.upsert model (fun page => g (page.getD {})) fun found good =>
    kept _ (tidy_getD ModelPage.tidy_empty found good)
  have seen := Table.find?_upsert_self part.models model fun page => g (page.getD {})
  exact ⟨{ tidy with models := held },
    ne_of_seen (fun part => part.models.find? model) seen rfl⟩

theorem ModelSection.Tidy.modifyAction {part : ModelSection} (tidy : part.Tidy)
    (model action : Text) (g : ActionPage → ActionPage)
    (kept : ∀ page, page.Tidy → (g page).Tidy ∧ g page ≠ {}) :
    (part.modifyAction model action g).Tidy ∧ part.modifyAction model action g ≠ {} := by
  refine tidy.modifyPage model _ fun page tidyPage => ?_
  have held := tidyPage.actions.upsert action (fun found => g (found.getD {})) fun found good =>
    kept _ (tidy_getD ActionPage.tidy_empty found good)
  have seen := Table.find?_upsert_self page.actions action fun found => g (found.getD {})
  exact ⟨{ tidyPage with actions := held },
    ne_of_seen (fun page => page.actions.find? action) seen rfl⟩

theorem ModuleSection.Tidy.modifyPage {part : ModuleSection} (tidy : part.Tidy)
    (module : Text) (g : ModulePage → ModulePage)
    (kept : ∀ page, page.Tidy → (g page).Tidy ∧ g page ≠ {}) :
    (part.modifyPage module g).Tidy ∧ part.modifyPage module g ≠ {} := by
  have held := tidy.modules.upsert module (fun page => g (page.getD {})) fun found good =>
    kept _ (tidy_getD ModulePage.tidy_empty found good)
  have seen := Table.find?_upsert_self part.modules module fun page => g (page.getD {})
  exact ⟨{ tidy with modules := held },
    ne_of_seen (fun part => part.modules.find? module) seen rfl⟩

theorem RouteBranch.Tidy.modifyAt (g : RouteBranch → RouteBranch)
    (kept : ∀ branch, branch.Tidy → (g branch).Tidy ∧ g branch ≠ {}) (segments : List Text)
    {branch : RouteBranch} (tidy : branch.Tidy) :
    (branch.modifyAt g segments).Tidy ∧ branch.modifyAt g segments ≠ {} := by
  induction segments generalizing branch with
  | nil => exact kept branch tidy
  | cons segment rest ih =>
      obtain ⟨_, allow, methods, sorted, below, present⟩ := tidy
      have held : Table.Holds (fun child : RouteBranch => child.Tidy ∧ child ≠ {})
          branch.paths :=
        ⟨sorted, fun entry mem => ⟨below entry mem, present entry mem⟩⟩
      have changed := held.upsert segment (fun child => RouteBranch.modifyAt g rest (child.getD {}))
        fun found good => ih (tidy_getD RouteBranch.tidy_empty found good)
      have seen := Table.find?_upsert_self branch.paths segment
        fun child => RouteBranch.modifyAt g rest (child.getD {})
      exact ⟨.intro _ allow methods changed.sorted
          (fun entry mem => (changed.values entry mem).1)
          (fun entry mem => (changed.values entry mem).2),
        ne_of_seen (fun branch => Table.find? segment branch.paths) seen rfl⟩

/-! ## Rulebooks of rules -/

namespace Rulebook

/-- One write keeps a rulebook tidy. -/
theorem Tidy.modifyAt {book : Rulebook} (tidy : book.Tidy) (f : Option Allows → Allows)
    (writes : WritesStored f) (address : Address) : (book.modifyAt f address).Tidy := by
  have models {part : ModelSection} (good : part.Tidy ∧ part ≠ {}) :
      { book with models := some part }.Tidy :=
    { tidy with models := fun _ mem => Option.mem_some.mp mem ▸ good }
  have modules {part : ModuleSection} (good : part.Tidy ∧ part ≠ {}) :
      { book with modules := some part }.Tidy :=
    { tidy with modules := fun _ mem => Option.mem_some.mp mem ▸ good }
  have routes {root : RouteBranch} (good : root.Tidy ∧ root ≠ {}) :
      { book with routes := some root }.Tidy :=
    { tidy with routes := fun _ mem => Option.mem_some.mp mem ▸ good }
  cases address with
  | models => exact models (tidy.modelSection.giveAllow writes)
  | model name =>
      exact models (tidy.modelSection.modifyPage name _ fun _ page => page.giveAllow writes)
  | creation name =>
      exact models (tidy.modelSection.modifyAction name createAction _ fun _ page =>
        page.giveAllow writes)
  | action name act scope =>
      exact models (tidy.modelSection.modifyAction name act _ fun _ page =>
        page.giveScope writes scope)
  | state name act condition scope =>
      exact models (tidy.modelSection.modifyAction name act _ fun _ page =>
        page.giveState writes condition scope)
  | modules => exact modules (tidy.moduleSection.giveAllow writes)
  | module name =>
      exact modules (tidy.moduleSection.modifyPage name _ fun _ page => page.giveAllow writes)
  | moduleMethod name method =>
      exact modules (tidy.moduleSection.modifyPage name _ fun _ page =>
        page.giveMethod writes method)
  | route segments =>
      exact routes (tidy.routeRoot.modifyAt _ (fun _ branch => branch.giveAllow writes) segments)
  | routeMethod segments method =>
      exact routes (tidy.routeRoot.modifyAt _ (fun _ branch => branch.giveMethod writes method)
        segments)

/-- The rulebook of any rules is tidy. -/
theorem tidy_enactAll (values : List Value) : (enactAll {} values).book.Tidy := by
  refine enactAll_invariant (fun book rule address writable _ tidy => ?_) tidy_empty values
  exact tidy.modifyAt _ (Allows.writesStored_assign rule.roles writable.some_role rule.allow)
    address

end Rulebook

end RoleAccess
