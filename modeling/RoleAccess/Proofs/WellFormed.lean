import RoleAccess.Proofs.Batches
import RoleAccess.Proofs.SortedTables
set_option autoImplicit false

/-! # Rulebooks are well-formed

A rulebook that rules have been put into keeps names only: of models, actions, states,
modules and methods, of segments, and of roles. Nothing is denied to anyone but everyone,
creation is the only action with decisions of its own, and whatever is there holds a
decision, in it or below. A table without entries is one that is not there. Every write goes
to an address that a rule spells, and a rejected rule writes nothing, so putting rules in
keeps a rulebook well-formed.
-/

namespace RoleAccess

variable {α : Type}

/-! ## Tables by key -/

/-- Every value of a table is good for its key. -/
def Table.Keyed (good : Text → α → Prop) (table : Table α) : Prop :=
  ∀ entry ∈ table, good entry.1 entry.2

theorem Table.Keyed.upsert {good : Text → α → Prop} {table : Table α}
    (keyed : table.Keyed good) (key : Text) (f : Option α → α)
    (kept : ∀ found : Option α, (∀ value ∈ found, good key value) → good key (f found)) :
    (table.upsert key f).Keyed good := by
  intro entry mem
  obtain rfl | mem := mem_upsert table key f entry mem
  · exact kept _ fun value found => keyed _ (mem_of_find? table key value found)
  · exact keyed entry mem

theorem Table.mem_upsert_self (table : Table α) (key : Text) (f : Option α → α) :
    (key, f (table.find? key)) ∈ table.upsert key f :=
  mem_of_find? _ _ _ (find?_upsert_self table key f)

/-! ## Decisions at or below a place -/

/-- There are decisions at a place itself. -/
def Decided (allow : Option Allows) : Prop := ∃ allows, allow = some allows ∧ allows ≠ []

def ScopedAllows.Speaks (pair : ScopedAllows) : Prop := Decided pair.own ∨ Decided pair.any

def ActionPage.Speaks (page : ActionPage) : Prop :=
  Decided page.allow ∨ page.scopes.Speaks ∨ ∃ entry ∈ page.states, entry.2.Speaks

def ModelPage.Speaks (page : ModelPage) : Prop :=
  Decided page.allow ∨ ∃ entry ∈ page.actions, entry.2.Speaks

def ModelSection.Speaks (part : ModelSection) : Prop :=
  Decided part.allow ∨ ∃ entry ∈ part.models, entry.2.Speaks

def ModulePage.Speaks (page : ModulePage) : Prop :=
  Decided page.allow ∨ ∃ entry ∈ page.methods, Decided (some entry.2)

def ModuleSection.Speaks (part : ModuleSection) : Prop :=
  Decided part.allow ∨ ∃ entry ∈ part.modules, entry.2.Speaks

/-- There are decisions about a path itself, about a method on it, or below it. -/
inductive RouteBranch.Speaks : RouteBranch → Prop
  | ofPath (branch : RouteBranch) (decided : Decided branch.allow) : RouteBranch.Speaks branch
  | ofMethod (branch : RouteBranch) (entry : Text × Allows) (mem : entry ∈ branch.methods)
      (decided : Decided (some entry.2)) : RouteBranch.Speaks branch
  | ofBranch (branch : RouteBranch) (entry : Text × RouteBranch) (mem : entry ∈ branch.paths)
      (speaks : RouteBranch.Speaks entry.2) : RouteBranch.Speaks branch

/-! ## Well-formed pages -/

/-- At least one decision, all of them for roles with a name, where nothing is denied to any
role but the one everyone has. -/
structure Allows.WellFormed (allows : Allows) : Prop where
  present : allows ≠ []
  roles : ∀ entry ∈ allows, entry.1 ≠ ""
  denials : ∀ entry ∈ allows, entry.2 = false → entry.1 = allRole

def ScopedAllows.WellFormed (pair : ScopedAllows) : Prop :=
  ∀ scope, ∀ allows ∈ pair.get scope, allows.WellFormed

structure ActionPage.WellFormed (page : ActionPage) : Prop where
  allow : ∀ allows ∈ page.allow, allows.WellFormed
  scopes : page.scopes.WellFormed
  states : page.states.Keyed fun state pair => IsName state ∧ pair.WellFormed ∧ pair.Speaks

/-- A page about an action. The page of creation holds nothing but decisions of its own, and
that of any other action has no such decisions, but some for a scope or for a state. -/
structure ActionPage.IsFor (action : Text) (page : ActionPage) : Prop where
  named : IsName action
  wellFormed : page.WellFormed
  speaks : page.Speaks
  decides : page.allow.isSome ↔ action = createAction
  ofCreation : action = createAction → page.scopes = {} ∧ page.states = []
  ofOthers : action ≠ createAction →
    page.scopes.own.isSome ∨ page.scopes.any.isSome ∨ page.states ≠ []

structure ModelPage.WellFormed (page : ModelPage) : Prop where
  allow : ∀ allows ∈ page.allow, allows.WellFormed
  actions : page.actions.Keyed ActionPage.IsFor

structure ModelSection.WellFormed (part : ModelSection) : Prop where
  allow : ∀ allows ∈ part.allow, allows.WellFormed
  models : part.models.Keyed fun model page => IsName model ∧ page.WellFormed ∧ page.Speaks

structure ModulePage.WellFormed (page : ModulePage) : Prop where
  allow : ∀ allows ∈ page.allow, allows.WellFormed
  methods : page.methods.Keyed fun method allows => IsName method ∧ allows.WellFormed

structure ModuleSection.WellFormed (part : ModuleSection) : Prop where
  allow : ∀ allows ∈ part.allow, allows.WellFormed
  modules : part.modules.Keyed fun module page => IsName module ∧ page.WellFormed ∧ page.Speaks

inductive RouteBranch.WellFormed : RouteBranch → Prop
  | intro (branch : RouteBranch) (allow : ∀ allows ∈ branch.allow, allows.WellFormed)
      (methods : branch.methods.Keyed fun method allows => IsName method ∧ allows.WellFormed)
      (segments : ∀ entry ∈ branch.paths, IsSegment entry.1)
      (below : ∀ entry ∈ branch.paths, RouteBranch.WellFormed entry.2)
      (speak : ∀ entry ∈ branch.paths, entry.2.Speaks) : RouteBranch.WellFormed branch

/-- All keys are names, decisions are given as rules can give them, and nothing is there
without a decision. -/
structure Rulebook.WellFormed (book : Rulebook) : Prop where
  models : ∀ part ∈ book.models, part.WellFormed ∧ part.Speaks
  modules : ∀ part ∈ book.modules, part.WellFormed ∧ part.Speaks
  routes : ∀ root ∈ book.routes, root.WellFormed ∧ root.Speaks

/-! ## Nothing is well-formed -/

theorem ScopedAllows.wellFormed_empty : ({} : ScopedAllows).WellFormed := by
  intro scope allows mem
  cases scope <;> cases mem

theorem ActionPage.wellFormed_empty : ({} : ActionPage).WellFormed :=
  ⟨nofun, ScopedAllows.wellFormed_empty, nofun⟩

theorem ModelPage.wellFormed_empty : ({} : ModelPage).WellFormed := ⟨nofun, nofun⟩

theorem ModelSection.wellFormed_empty : ({} : ModelSection).WellFormed := ⟨nofun, nofun⟩

theorem ModulePage.wellFormed_empty : ({} : ModulePage).WellFormed := ⟨nofun, nofun⟩

theorem ModuleSection.wellFormed_empty : ({} : ModuleSection).WellFormed := ⟨nofun, nofun⟩

theorem RouteBranch.wellFormed_empty : ({} : RouteBranch).WellFormed :=
  ⟨_, nofun, nofun, nofun, nofun, nofun⟩

theorem Rulebook.wellFormed_empty : ({} : Rulebook).WellFormed := ⟨nofun, nofun, nofun⟩

/-- What is there is well-formed, and so is what stands for it if it is not. -/
theorem wellFormed_getD {wellFormed : α → Prop} {empty : α} (ofEmpty : wellFormed empty)
    (found : Option α) (good : ∀ value ∈ found, wellFormed value) :
    wellFormed (found.getD empty) := by
  cases found with
  | none => exact ofEmpty
  | some value => exact good value rfl

/-! ## Writes -/

/-- What is written is well-formed, if what was there before was. -/
def WritesWellFormed (f : Option Allows → Allows) : Prop :=
  ∀ allow : Option Allows, (∀ allows ∈ allow, allows.WellFormed) → (f allow).WellFormed

theorem Allows.writesWellFormed_assign (roles : List Text) (some : roles ≠ [])
    (named : ∀ role ∈ roles, role ≠ "") (allow : Bool)
    (denial : allow = false → roles = [allRole]) :
    WritesWellFormed (Allows.assign roles allow) := by
  intro before wellFormed
  -- one role after the other is written into a table of named roles
  have entries : Table.Keyed (fun role decision => role ≠ "" ∧ (decision = false → role = allRole))
      (assign roles allow before) := by
    have start : Table.Keyed (fun role decision => role ≠ "" ∧ (decision = false → role = allRole))
        (before.getD []) := by
      cases before with
      | none => exact nofun
      | some allows =>
          intro entry mem
          have good := wellFormed allows rfl
          exact ⟨good.roles entry mem, good.denials entry mem⟩
    have good : ∀ role ∈ roles, role ≠ "" ∧ (allow = false → role = allRole) := by
      refine fun role mem => ⟨named role mem, fun denied => ?_⟩
      rw [denial denied] at mem
      exact List.mem_singleton.mp mem
    rw [assign]
    generalize before.getD [] = table at start
    clear some named denial wellFormed
    induction roles generalizing table with
    | nil => exact start
    | cons role rest ih =>
        obtain ⟨first, others⟩ := List.forall_mem_cons.mp good
        exact ih others _ (start.upsert role _ fun _ _ => first)
  obtain ⟨role, mem⟩ := List.exists_mem_of_ne_nil roles some
  have given : (assign roles allow before).find? role = Option.some allow := by
    rw [find?_assign, if_pos mem]
  refine ⟨?_, fun entry mem => (entries entry mem).1, fun entry mem => (entries entry mem).2⟩
  intro none
  rw [none] at given
  cases given

section Writes

variable {f : Option Allows → Allows} (writes : WritesWellFormed f)

include writes

/-- After a write there are decisions, and they are well-formed. -/
theorem WritesWellFormed.given {allow : Option Allows}
    (wellFormed : ∀ allows ∈ allow, allows.WellFormed) :
    (∀ allows ∈ some (f allow), allows.WellFormed) ∧ Decided (some (f allow)) := by
  have written := writes allow wellFormed
  refine ⟨fun allows mem => ?_, _, rfl, written.present⟩
  cases mem
  exact written

theorem ScopedAllows.WellFormed.modify {pair : ScopedAllows} (wellFormed : pair.WellFormed)
    (scope : Scope) :
    (pair.modify scope f).WellFormed ∧ (pair.modify scope f).Speaks := by
  obtain ⟨good, decided⟩ := writes.given (wellFormed scope)
  constructor
  · intro other allows mem
    rw [get_modify] at mem
    split at mem
    · exact good allows mem
    · exact wellFormed other allows mem
  · cases scope with
    | own => exact Or.inl decided
    | any => exact Or.inr decided

end Writes

/-! ## Pages of actions -/

/-- What a page about an action does not hold, which is also so of a page that is made only
now. -/
structure ActionPage.Fits (page : ActionPage) (action : Text) : Prop where
  undecided : action ≠ createAction → page.allow = none
  ofCreation : action = createAction → page.scopes = {} ∧ page.states = []

theorem ActionPage.IsFor.fits {page : ActionPage} {action : Text} (isFor : page.IsFor action) :
    page.Fits action where
  undecided hne := by
    cases allow : page.allow with
    | none => rfl
    | some allows => exact absurd (isFor.decides.mp (by simp [allow])) hne
  ofCreation := isFor.ofCreation

theorem ActionPage.fits_getD (action : Text) (found : Option ActionPage)
    (good : ∀ page ∈ found, page.IsFor action) :
    (found.getD {}).WellFormed ∧ (found.getD {}).Fits action := by
  cases found with
  | none => exact ⟨wellFormed_empty, fun _ => rfl, fun _ => ⟨rfl, rfl⟩⟩
  | some page => exact ⟨(good page rfl).wellFormed, (good page rfl).fits⟩

namespace ActionPage.WellFormed

variable {f : Option Allows → Allows} (writes : WritesWellFormed f) {page : ActionPage}
  (wellFormed : page.WellFormed)

include writes wellFormed

theorem giveAllow (fits : page.Fits createAction) :
    { page with allow := some (f page.allow) }.IsFor createAction := by
  obtain ⟨allow, decided⟩ := writes.given wellFormed.allow
  exact
    { named := .createAction
      wellFormed := { wellFormed with allow }
      speaks := Or.inl decided
      decides := by simp
      ofCreation := fits.ofCreation
      ofOthers := fun hne => absurd rfl hne }

variable {action : Text} (named : IsName action) (hne : action ≠ createAction)
  (fits : page.Fits action)

include named hne fits

theorem giveScope (scope : Scope) :
    { page with scopes := page.scopes.modify scope f }.IsFor action := by
  obtain ⟨scopes, speaks⟩ := wellFormed.scopes.modify writes scope
  exact
    { named
      wellFormed := { wellFormed with scopes }
      speaks := Or.inr (Or.inl speaks)
      decides := by simp [fits.undecided hne, hne]
      ofCreation := fun same => absurd same hne
      ofOthers := fun _ => by
        cases scope with
        | own => exact Or.inl rfl
        | any => exact Or.inr (Or.inl rfl) }

theorem giveState (state : Text) (stated : IsName state) (scope : Scope) :
    { page with
      states := page.states.upsert state fun pair => (pair.getD {}).modify scope f }.IsFor
        action := by
  have states := wellFormed.states.upsert state (fun pair => (pair.getD {}).modify scope f)
    fun found good => ⟨stated, (wellFormed_getD ScopedAllows.wellFormed_empty found
      fun pair mem => (good pair mem).2.1).modify writes scope⟩
  have written := Table.mem_upsert_self page.states state
    fun pair => (pair.getD {}).modify scope f
  exact
    { named
      wellFormed := { wellFormed with states }
      speaks := Or.inr (Or.inr ⟨_, written, (states _ written).2.2⟩)
      decides := by simp [fits.undecided hne, hne]
      ofCreation := fun same => absurd same hne
      ofOthers := fun _ => Or.inr (Or.inr (List.ne_nil_of_mem written)) }

end ActionPage.WellFormed

/-! ## Other pages -/

section Pages

variable {f : Option Allows → Allows} (writes : WritesWellFormed f)

include writes

theorem ModelPage.WellFormed.giveAllow {page : ModelPage} (wellFormed : page.WellFormed) :
    { page with allow := some (f page.allow) }.WellFormed ∧
      { page with allow := some (f page.allow) }.Speaks := by
  obtain ⟨allow, decided⟩ := writes.given wellFormed.allow
  exact ⟨{ wellFormed with allow }, Or.inl decided⟩

theorem ModelSection.WellFormed.giveAllow {part : ModelSection} (wellFormed : part.WellFormed) :
    { part with allow := some (f part.allow) }.WellFormed ∧
      { part with allow := some (f part.allow) }.Speaks := by
  obtain ⟨allow, decided⟩ := writes.given wellFormed.allow
  exact ⟨{ wellFormed with allow }, Or.inl decided⟩

theorem ModulePage.WellFormed.giveAllow {page : ModulePage} (wellFormed : page.WellFormed) :
    { page with allow := some (f page.allow) }.WellFormed ∧
      { page with allow := some (f page.allow) }.Speaks := by
  obtain ⟨allow, decided⟩ := writes.given wellFormed.allow
  exact ⟨{ wellFormed with allow }, Or.inl decided⟩

theorem ModuleSection.WellFormed.giveAllow {part : ModuleSection}
    (wellFormed : part.WellFormed) :
    { part with allow := some (f part.allow) }.WellFormed ∧
      { part with allow := some (f part.allow) }.Speaks := by
  obtain ⟨allow, decided⟩ := writes.given wellFormed.allow
  exact ⟨{ wellFormed with allow }, Or.inl decided⟩

theorem RouteBranch.WellFormed.giveAllow {branch : RouteBranch}
    (wellFormed : branch.WellFormed) :
    { branch with allow := some (f branch.allow) }.WellFormed ∧
      { branch with allow := some (f branch.allow) }.Speaks := by
  obtain ⟨_, allow, methods, segments, below, speak⟩ := wellFormed
  obtain ⟨allow, decided⟩ := writes.given allow
  exact ⟨.intro _ allow methods segments below speak, .ofPath _ decided⟩

/-- The methods of a module or of a path, after one is written. -/
theorem WritesWellFormed.methods {methods : Table Allows}
    (keyed : methods.Keyed fun method allows => IsName method ∧ allows.WellFormed)
    (method : Text) (named : IsName method) :
    (methods.upsert method f).Keyed (fun method allows => IsName method ∧ allows.WellFormed) ∧
      ∃ entry ∈ methods.upsert method f, Decided (some entry.2) := by
  have upserted := keyed.upsert method f fun found good =>
    ⟨named, writes found fun allows mem => (good allows mem).2⟩
  have written := Table.mem_upsert_self methods method f
  exact ⟨upserted, _, written, _, rfl, (upserted _ written).2.present⟩

theorem ModulePage.WellFormed.giveMethod {page : ModulePage} (wellFormed : page.WellFormed)
    (method : Text) (named : IsName method) :
    { page with methods := page.methods.upsert method f }.WellFormed ∧
      { page with methods := page.methods.upsert method f }.Speaks := by
  obtain ⟨methods, decided⟩ := writes.methods wellFormed.methods method named
  exact ⟨{ wellFormed with methods }, Or.inr decided⟩

theorem RouteBranch.WellFormed.giveMethod {branch : RouteBranch}
    (wellFormed : branch.WellFormed) (method : Text) (named : IsName method) :
    { branch with methods := branch.methods.upsert method f }.WellFormed ∧
      { branch with methods := branch.methods.upsert method f }.Speaks := by
  obtain ⟨_, allow, methods, segments, below, speak⟩ := wellFormed
  obtain ⟨methods, entry, mem, decided⟩ := writes.methods methods method named
  exact ⟨.intro _ allow methods segments below speak, .ofMethod _ entry mem decided⟩

end Pages

/-! ## Changes of what is below -/

theorem ModelSection.WellFormed.modifyPage {part : ModelSection} (wellFormed : part.WellFormed)
    (model : Text) (named : IsName model) (g : ModelPage → ModelPage)
    (kept : ∀ page, page.WellFormed → (g page).WellFormed ∧ (g page).Speaks) :
    (part.modifyPage model g).WellFormed ∧ (part.modifyPage model g).Speaks := by
  have models := wellFormed.models.upsert model (fun page => g (page.getD {}))
    fun found good => ⟨named, kept _ (wellFormed_getD ModelPage.wellFormed_empty found
      fun page mem => (good page mem).2.1)⟩
  have written := Table.mem_upsert_self part.models model fun page => g (page.getD {})
  exact ⟨{ wellFormed with models }, Or.inr ⟨_, written, (models _ written).2.2⟩⟩

theorem ModelSection.WellFormed.modifyAction {part : ModelSection} (wellFormed : part.WellFormed)
    (model : Text) (named : IsName model) (action : Text) (g : ActionPage → ActionPage)
    (made : ∀ page, page.WellFormed → page.Fits action → (g page).IsFor action) :
    (part.modifyAction model action g).WellFormed ∧
      (part.modifyAction model action g).Speaks := by
  refine wellFormed.modifyPage model named _ fun page wellFormedPage => ?_
  have actions := wellFormedPage.actions.upsert action (fun found => g (found.getD {}))
    fun found good => by
      obtain ⟨wellFormedFound, fits⟩ := ActionPage.fits_getD action found good
      exact made _ wellFormedFound fits
  have written := Table.mem_upsert_self page.actions action fun found => g (found.getD {})
  exact ⟨{ wellFormedPage with actions }, Or.inr ⟨_, written, (actions _ written).speaks⟩⟩

theorem ModuleSection.WellFormed.modifyPage {part : ModuleSection}
    (wellFormed : part.WellFormed) (module : Text) (named : IsName module)
    (g : ModulePage → ModulePage)
    (kept : ∀ page, page.WellFormed → (g page).WellFormed ∧ (g page).Speaks) :
    (part.modifyPage module g).WellFormed ∧ (part.modifyPage module g).Speaks := by
  have modules := wellFormed.modules.upsert module (fun page => g (page.getD {}))
    fun found good => ⟨named, kept _ (wellFormed_getD ModulePage.wellFormed_empty found
      fun page mem => (good page mem).2.1)⟩
  have written := Table.mem_upsert_self part.modules module fun page => g (page.getD {})
  exact ⟨{ wellFormed with modules }, Or.inr ⟨_, written, (modules _ written).2.2⟩⟩

theorem RouteBranch.WellFormed.modifyAt (g : RouteBranch → RouteBranch)
    (kept : ∀ branch, branch.WellFormed → (g branch).WellFormed ∧ (g branch).Speaks)
    (segments : List Text) (spelled : ∀ segment ∈ segments, IsSegment segment)
    {branch : RouteBranch} (wellFormed : branch.WellFormed) :
    (branch.modifyAt g segments).WellFormed ∧ (branch.modifyAt g segments).Speaks := by
  induction segments generalizing branch with
  | nil => exact kept branch wellFormed
  | cons segment rest ih =>
      obtain ⟨isSegment, others⟩ := List.forall_mem_cons.mp spelled
      obtain ⟨_, allow, methods, segments, below, speak⟩ := wellFormed
      have keyed : Table.Keyed (fun segment (child : RouteBranch) =>
          IsSegment segment ∧ child.WellFormed ∧ child.Speaks) branch.paths :=
        fun entry mem => ⟨segments entry mem, below entry mem, speak entry mem⟩
      have paths := keyed.upsert segment
        (fun child => RouteBranch.modifyAt g rest (child.getD {}))
        fun found good => ⟨isSegment, ih others (wellFormed_getD RouteBranch.wellFormed_empty found
          fun child mem => (good child mem).2.1)⟩
      have written := Table.mem_upsert_self branch.paths segment
        fun child => RouteBranch.modifyAt g rest (child.getD {})
      exact ⟨.intro _ allow methods (fun entry mem => (paths entry mem).1)
          (fun entry mem => (paths entry mem).2.1) (fun entry mem => (paths entry mem).2.2),
        .ofBranch _ _ written (paths _ written).2.2⟩

/-! ## Rulebooks of rules -/

namespace Rulebook

namespace WellFormed

variable {book : Rulebook} (wellFormed : book.WellFormed)

include wellFormed

theorem modelSection : book.modelSection.WellFormed :=
  wellFormed_getD ModelSection.wellFormed_empty _ fun part mem => (wellFormed.models part mem).1

theorem moduleSection : book.moduleSection.WellFormed :=
  wellFormed_getD ModuleSection.wellFormed_empty _ fun part mem => (wellFormed.modules part mem).1

theorem routeRoot : book.routeRoot.WellFormed :=
  wellFormed_getD RouteBranch.wellFormed_empty _ fun root mem => (wellFormed.routes root mem).1

/-- One write at an address as rules spell it keeps a rulebook well-formed. -/
theorem modifyAt (f : Option Allows → Allows) (writes : WritesWellFormed f) (address : Address)
    (spelled : address.IsSpelled) : (book.modifyAt f address).WellFormed := by
  have models {part : ModelSection} (good : part.WellFormed ∧ part.Speaks) :
      { book with models := some part }.WellFormed :=
    { wellFormed with models := fun _ mem => Option.mem_some.mp mem ▸ good }
  have modules {part : ModuleSection} (good : part.WellFormed ∧ part.Speaks) :
      { book with modules := some part }.WellFormed :=
    { wellFormed with modules := fun _ mem => Option.mem_some.mp mem ▸ good }
  have routes {root : RouteBranch} (good : root.WellFormed ∧ root.Speaks) :
      { book with routes := some root }.WellFormed :=
    { wellFormed with routes := fun _ mem => Option.mem_some.mp mem ▸ good }
  cases address with
  | models => exact models (wellFormed.modelSection.giveAllow writes)
  | model name =>
      exact models (wellFormed.modelSection.modifyPage name spelled _ fun _ page =>
        page.giveAllow writes)
  | creation name =>
      exact models (wellFormed.modelSection.modifyAction name spelled createAction _
        fun _ page fits => page.giveAllow writes fits)
  | action name act scope =>
      obtain ⟨named, acts, hne⟩ := spelled
      exact models (wellFormed.modelSection.modifyAction name named act _
        fun _ page fits => page.giveScope writes acts hne fits scope)
  | state name act condition scope =>
      obtain ⟨named, acts, hne, stated⟩ := spelled
      exact models (wellFormed.modelSection.modifyAction name named act _
        fun _ page fits => page.giveState writes acts hne fits condition stated scope)
  | modules => exact modules (wellFormed.moduleSection.giveAllow writes)
  | module name =>
      exact modules (wellFormed.moduleSection.modifyPage name spelled _ fun _ page =>
        page.giveAllow writes)
  | moduleMethod name method =>
      obtain ⟨named, methodNamed⟩ := spelled
      exact modules (wellFormed.moduleSection.modifyPage name named _ fun _ page =>
        page.giveMethod writes method methodNamed)
  | route segments =>
      exact routes (wellFormed.routeRoot.modifyAt _ (fun _ branch => branch.giveAllow writes)
        segments spelled)
  | routeMethod segments method =>
      obtain ⟨spelled, named⟩ := spelled
      exact routes (wellFormed.routeRoot.modifyAt _
        (fun _ branch => branch.giveMethod writes method named) segments spelled)

/-- Rules keep a rulebook well-formed, also if they are put in up to one that is rejected. -/
theorem enactAll (values : List Value) : (book.enactAll values).book.WellFormed := by
  refine enactAll_invariant (fun book rule address writable spelled before => ?_) wellFormed values
  have writes := Allows.writesWellFormed_assign rule.roles writable.some_role writable.roles
    rule.allow writable.denial
  exact before.modifyAt _ writes address spelled

end WellFormed

end Rulebook

end RoleAccess
