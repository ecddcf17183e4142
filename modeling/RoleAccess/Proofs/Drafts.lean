import RoleAccess.Proofs.Batches
import RoleAccess.Rulebook.Drafting
set_option autoImplicit false

/-! # Faults leave no trace

A rule that is put in step by step makes places on its way and can be refused at several
points. Still, the work comes to what putting it in at once comes to: whatever refuses a rule
does so before the first place is made, and a place that is made on the way to an address is
one that giving a decision there would have made anyway. So a fault depends on the rule alone
and leaves the rulebook as it was, and a list of rules is put in up to the first bad one.
-/

namespace RoleAccess

/-! ## Places on the way to an address -/

theorem ModelSection.modifyPage_modifyPage (part : ModelSection) (name : Text)
    (f g : ModelPage → ModelPage) :
    (part.modifyPage name g).modifyPage name f = part.modifyPage name fun page => f (g page) := by
  simp only [modifyPage, Table.upsert_upsert, Option.getD_some]

theorem ModelSection.modifyAction_modifyPage (part : ModelSection) (name act : Text)
    (f : ActionPage → ActionPage) :
    (part.modifyPage name id).modifyAction name act f = part.modifyAction name act f := by
  simp only [modifyAction, modifyPage_modifyPage, id_eq]

theorem ModelSection.modifyAction_modifyAction (part : ModelSection) (name act : Text)
    (f g : ActionPage → ActionPage) :
    (part.modifyAction name act g).modifyAction name act f =
      part.modifyAction name act fun page => f (g page) := by
  simp only [modifyAction, modifyPage_modifyPage, Table.upsert_upsert, Option.getD_some]

theorem ModuleSection.modifyPage_modifyPage (part : ModuleSection) (name : Text)
    (f g : ModulePage → ModulePage) :
    (part.modifyPage name g).modifyPage name f = part.modifyPage name fun page => f (g page) := by
  simp only [modifyPage, Table.upsert_upsert, Option.getD_some]

/-- A branch that is made first is on the way to every branch below it. -/
theorem RouteBranch.modifyAt_modifyAt (f : RouteBranch → RouteBranch) (path rest : List Text)
    (branch : RouteBranch) :
    (branch.modifyAt id path).modifyAt f (path ++ rest) = branch.modifyAt f (path ++ rest) := by
  induction path generalizing branch with
  | nil => rfl
  | cons segment others ih =>
      simp only [List.cons_append, modifyAt, Table.upsert_upsert, Option.getD_some, ih]

/-- The branches on the way down some segments, one below the other. -/
def branchesBelow (before : List Text) : List Text → List Place
  | [] => []
  | segment :: rest => .branch (before ++ [segment]) :: branchesBelow (before ++ [segment]) rest

theorem exists_of_mem_branchesBelow (before segments : List Text) (place : Place)
    (mem : place ∈ branchesBelow before segments) :
    ∃ front back, segments = front ++ back ∧ place = .branch (before ++ front) := by
  induction segments generalizing before with
  | nil => cases mem
  | cons segment rest ih =>
      obtain rfl | below := List.mem_cons.mp mem
      · exact ⟨[segment], rest, rfl, rfl⟩
      · obtain ⟨front, back, rfl, rfl⟩ := ih _ below
        exact ⟨segment :: front, back, rfl, by simp⟩

/-- The places on the way to an address, from the section down. -/
def Address.way : Address → List Place
  | .models => [.models]
  | .model name => [.models, .model name]
  | .creation name => [.models, .model name, .action name createAction]
  | .action name act _ => [.models, .model name, .action name act]
  | .state name act condition _ =>
      [.models, .model name, .action name act, .state name act condition]
  | .modules => [.modules]
  | .module name | .moduleMethod name _ => [.modules, .module name]
  | .route segments | .routeMethod segments _ => .branch [] :: branchesBelow [] segments

namespace Rulebook

variable (book : Rulebook)

/-- To make a place on the way to an address first makes no difference to a change there. -/
theorem modifyAt_ensure (f : Option Allows → Allows) (address : Address) (place : Place)
    (onWay : place ∈ address.way) :
    (book.ensure place).modifyAt f address = book.modifyAt f address := by
  cases address with
  | models | modules =>
      simp only [Address.way, List.mem_singleton] at onWay
      subst onWay
      rfl
  | model name | module name | moduleMethod name method =>
      simp only [Address.way, List.mem_cons, List.not_mem_nil, or_false] at onWay
      obtain rfl | rfl := onWay
      · rfl
      · simp only [modifyAt, ensure, modelSection, moduleSection, Option.getD_some,
          ModelSection.modifyPage_modifyPage, ModuleSection.modifyPage_modifyPage, id_eq]
  | creation name | action name act scope =>
      simp only [Address.way, List.mem_cons, List.not_mem_nil, or_false] at onWay
      obtain rfl | rfl | rfl := onWay
      · rfl
      · simp only [modifyAt, ensure, modelSection, Option.getD_some,
          ModelSection.modifyAction_modifyPage]
      · simp only [modifyAt, ensure, modelSection, Option.getD_some,
          ModelSection.modifyAction_modifyAction, id_eq]
  | state name act condition scope =>
      simp only [Address.way, List.mem_cons, List.not_mem_nil, or_false] at onWay
      obtain rfl | rfl | rfl | rfl := onWay
      · rfl
      · simp only [modifyAt, ensure, modelSection, Option.getD_some,
          ModelSection.modifyAction_modifyPage]
      · simp only [modifyAt, ensure, modelSection, Option.getD_some,
          ModelSection.modifyAction_modifyAction, id_eq]
      · simp only [modifyAt, ensure, modelSection, Option.getD_some,
          ModelSection.modifyAction_modifyAction, Table.upsert_upsert]
  | route segments | routeMethod segments method =>
      obtain ⟨front, back, rfl, rfl⟩ :
          ∃ front back, segments = front ++ back ∧ place = .branch front := by
        obtain rfl | below := List.mem_cons.mp onWay
        · exact ⟨[], segments, rfl, rfl⟩
        · exact exists_of_mem_branchesBelow [] segments place below
      simp only [modifyAt, ensure, routeRoot, Option.getD_some, RouteBranch.modifyAt_modifyAt]

/-- A decision that is given after all places on the way were made is given at once. -/
theorem insert_way (roles : List Text) (allow : Bool) (address : Address) :
    (address.way.foldl ensure book).insert roles allow address =
      book.insert roles allow address := by
  have made (places : List Place) (onWay : ∀ place ∈ places, place ∈ address.way) :
      (places.foldl ensure book).insert roles allow address =
        book.insert roles allow address := by
    induction places generalizing book with
    | nil => rfl
    | cons place rest ih =>
        obtain ⟨first, others⟩ := List.forall_mem_cons.mp onWay
        rw [List.foldl_cons, ih _ others]
        exact book.modifyAt_ensure _ address place first
  exact made address.way fun _ mem => mem

end Rulebook

namespace Drafting

variable {α β : Type} (book : Rulebook)

/-! ## Steps -/

@[simp] theorem on_pure (a : α) : (pure a : Drafting α).on book = (.ok a, book) := rfl

@[simp] theorem on_throw (fault : RuleFault) :
    (throw fault : Drafting α).on book = (.error fault, book) := rfl

@[simp] theorem on_ensure_bind (place : Place) (next : Unit → Drafting β) :
    (ensure place >>= next).on book = (next ()).on (book.ensure place) := rfl

@[simp] theorem on_give (rule : Rule) (address : Address) :
    (give rule address).on book = (.ok (), book.insert rule.roles rule.allow address) := rfl

@[simp] theorem on_give_bind (rule : Rule) (address : Address) (next : Unit → Drafting β) :
    (give rule address >>= next).on book =
      (next ()).on (book.insert rule.roles rule.allow address) := rfl

/-- A check changes nothing. -/
theorem on_lift_bind (check : Except RuleFault α) (next : α → Drafting β) :
    ((liftM check : Drafting α) >>= next).on book =
      match check with
      | .error fault => (.error fault, book)
      | .ok a => (next a).on book := by
  cases check <;> rfl

/-- A fault leaves what was changed before, and what comes next starts from there. -/
theorem on_bind (work : Drafting α) (next : α → Drafting β) :
    (work >>= next).on book =
      match work.on book with
      | (.error fault, left) => (.error fault, left)
      | (.ok a, left) => (next a).on left := by
  show (work >>= next) book = _
  simp only [on, bind, ExceptT.bind, ExceptT.mk, StateT.bind, ExceptT.bindCont]
  rcases work book with ⟨_ | _, _⟩ <;> rfl

theorem on_descend_bind (before segments : List Text) (next : Unit → Drafting β) :
    (descend before segments >>= next).on book =
      (next ()).on ((branchesBelow before segments).foldl Rulebook.ensure book) := by
  induction segments generalizing before book with
  | nil => rfl
  | cons segment rest ih => exact ih (book.ensure (.branch (before ++ [segment]))) _

/-! ## One rule -/

/-- What there is in the end if the decision of a rule is given at all addresses that the rule
spells, or at none because it spells none. -/
def settled (rule : Rule) : Except RuleFault (List Address) → Except RuleFault Unit × Rulebook
  | .error fault => (.error fault, book)
  | .ok addresses => (.ok (), book.insertAll rule.roles rule.allow addresses)

variable (rule : Rule)

/-- A rule that is not a blanket rule spells one address. -/
theorem settled_map (spelled : Except RuleFault Address) :
    settled book rule (spelled.map ([·])) =
      match spelled with
      | .error fault => (.error fault, book)
      | .ok address => (.ok (), book.insert rule.roles rule.allow address) := by
  cases spelled <;> rfl

theorem on_addBlanket :
    (addBlanket rule).on book =
      settled book rule
        (if rule.clauses = [] then .ok Address.blanket
        else .error (.blanketClauses rule.source)) := by
  have given (book : Rulebook) (address : Address) :=
    book.insert_way rule.roles rule.allow address
  by_cases none : rule.clauses = []
  · -- each section is made when the decision above it has been given
    have models := given book .models
    have modules := given (book.insert rule.roles rule.allow .models) .modules
    have routes := given ((book.insert rule.roles rule.allow .models).insert rule.roles rule.allow
      .modules) (.route [])
    simp only [Address.way, branchesBelow, List.foldl_cons, List.foldl_nil] at models modules routes
    simp [addBlanket, none, settled, Address.blanket, Rulebook.insertAll, models, modules, routes]
  · simp [addBlanket, none, settled]

theorem on_addModel :
    (addModel rule).on book =
      settled book rule ((Address.ofModelClauses rule.source rule.clauses).map ([·])) := by
  have given (address : Address) := book.insert_way rule.roles rule.allow address
  rw [settled_map, addModel, on_lift_bind, modelScope]
  generalize rule.source = source
  -- how many clauses there are tells the place and the checks in front of it
  rcases rule.clauses with _ | ⟨name, _ | ⟨act, _ | ⟨third, _ | ⟨fourth, _ | ⟨fifth, more⟩⟩⟩⟩⟩
  · simpa [Address.ofModelClauses, Address.way] using given .models
  · simpa [Address.ofModelClauses, Address.way] using given (.model name)
  · by_cases creates : act = createAction
    · simpa [Address.ofModelClauses, Address.way, creates] using given (.creation name)
    · simp [Address.ofModelClauses, creates]
  · by_cases creates : act = createAction
    · simp [Address.ofModelClauses, creates]
    · cases read : Address.scopeOf source third with
      | error fault => simp [Address.ofModelClauses, creates, read, Except.map]
      | ok scope =>
          simpa [Address.ofModelClauses, Address.way, creates, read, Except.map] using
            given (.action name act scope)
  · by_cases creates : act = createAction
    · simp [Address.ofModelClauses, creates]
    · cases read : Address.scopeOf source fourth with
      | error fault => simp [Address.ofModelClauses, creates, read, Except.map]
      | ok scope =>
          simpa [Address.ofModelClauses, Address.way, creates, read, Except.map] using
            given (.state name act third scope)
  · simp [Address.ofModelClauses]

theorem on_addModule :
    (addModule rule).on book =
      settled book rule ((Address.ofModuleClauses rule.source rule.clauses).map ([·])) := by
  have given (address : Address) := book.insert_way rule.roles rule.allow address
  rw [settled_map, addModule]
  rcases rule.clauses with _ | ⟨name, _ | ⟨method, _ | ⟨third, more⟩⟩⟩
  · simpa [Address.ofModuleClauses, Address.way] using given .modules
  · simpa [Address.ofModuleClauses, Address.way] using given (.module name)
  · simpa [Address.ofModuleClauses, Address.way] using given (.moduleMethod name method)
  · simp [Address.ofModuleClauses]

theorem on_addRoute :
    (addRoute rule).on book =
      settled book rule ((Address.ofRouteClauses rule.source rule.clauses).map ([·])) := by
  have given (address : Address) := book.insert_way rule.roles rule.allow address
  rw [settled_map, addRoute, routeSegments]
  generalize rule.source = source
  rcases rule.clauses with _ | ⟨path, _ | ⟨method, _ | ⟨third, more⟩⟩⟩
  · simpa [Address.ofRouteClauses, Address.way, on_lift_bind, on_descend_bind] using
      given (.route [])
  · cases read : Address.segmentsOf source path with
    | error fault => simp [Address.ofRouteClauses, on_lift_bind, read, Except.map]
    | ok segments =>
        simpa [Address.ofRouteClauses, Address.way, on_lift_bind, on_descend_bind, read,
          Except.map] using given (.route segments)
  · cases read : Address.segmentsOf source path with
    | error fault => simp [Address.ofRouteClauses, on_lift_bind, read, Except.map]
    | ok segments =>
        simpa [Address.ofRouteClauses, Address.way, on_lift_bind, on_descend_bind, read,
          Except.map] using given (.routeMethod segments method)
  · simp [Address.ofRouteClauses]

/-- A rule is put in at all its addresses, or it is refused and nothing has changed. -/
theorem on_add : (add rule).on book = settled book rule rule.addresses := by
  unfold add Rule.addresses
  cases rule.resource with
  | blanket => exact on_addBlanket book rule
  | model => exact on_addModel book rule
  | module => exact on_addModule book rule
  | route => exact on_addRoute book rule

/-- Putting a rule in step by step comes to what putting it in at once comes to. -/
theorem on_enact (value : Value) :
    (enact value).on book =
      match book.enact value with
      | .error fault => (.error fault, book)
      | .ok (next, rule) => (.ok rule, next) := by
  rw [enact, on_lift_bind]
  cases read : Rule.parse value with
  | error fault => simp [Rulebook.enact, read, bind, Except.bind]
  | ok rule =>
      rw [book.enact_of_read value rule read, Rulebook.add]
      simp only [on_bind, on_add]
      cases rule.addresses <;> rfl

/-! ## Faults -/

/-- What comes of a rule alone, put into an empty rulebook. -/
def alone (value : Value) : Except RuleFault Rule := ((enact value).on {}).1

/-- What comes of a rule alone is told by putting it in at once as well. -/
theorem alone_eq (value : Value) :
    alone value = (Rulebook.enact {} value).map Prod.snd := by
  rw [alone, on_enact]
  cases Rulebook.enact {} value <;> rfl

/-- Every rulebook makes of a rule what an empty one makes of it. -/
theorem fst_on_enact (value : Value) : ((enact value).on book).1 = alone value := by
  rw [alone, on_enact, on_enact]
  cases read : Rule.parse value with
  | error fault => simp [Rulebook.enact, read, bind, Except.bind]
  | ok rule =>
      rw [book.enact_of_read value rule read, Rulebook.enact_of_read {} value rule read,
        Rulebook.add, Rulebook.add]
      cases rule.addresses <;> rfl

/-- A rule that is refused leaves the rulebook as it was. -/
theorem on_enact_of_error (value : Value) (fault : RuleFault)
    (refused : alone value = .error fault) : (enact value).on book = (.error fault, book) := by
  have result := (fst_on_enact book value).trans refused
  rw [on_enact] at result ⊢
  cases made : book.enact value with
  | error found =>
      rw [made] at result
      rw [← result]
  | ok made' =>
      rw [made] at result
      cases result

/-! ## Lists of rules -/

/-- The rulebook after some rules that were put in by a call of its own each. -/
def oneByOne (values : List Value) : Rulebook :=
  values.foldl (fun book value => ((enact value).on book).2) book

/-- Rules that are accepted alone are put in, and the rest of the list after them. -/
theorem on_enactAll_append (values more : List Value)
    (accepted : ∀ value ∈ values, ∃ rule, alone value = .ok rule) :
    (enactAll (values ++ more)).on book = (enactAll more).on (oneByOne book values) := by
  induction values generalizing book with
  | nil => rfl
  | cons value rest ih =>
      obtain ⟨⟨rule, first⟩, others⟩ := List.forall_mem_cons.mp accepted
      have result := (fst_on_enact book value).trans first
      have next : (enact value).on book = (.ok rule, ((enact value).on book).2) := by rw [← result]
      rw [List.cons_append, enactAll, on_bind, next]
      exact ih _ others

/-- A list of rules, too, comes to what it comes to if each rule is put in at once. -/
theorem on_enactList (rules : Value) :
    (enactList rules).on book =
      ((book.enactList rules).fault.elim (.ok ()) .error, (book.enactList rules).book) := by
  have each (values : List Value) (book : Rulebook) :
      (enactAll values).on book =
        ((book.enactAll values).fault.elim (.ok ()) .error, (book.enactAll values).book) := by
    induction values generalizing book with
    | nil => rfl
    | cons value rest ih =>
        rw [enactAll, on_bind, on_enact, Rulebook.enactAll]
        cases book.enact value with
        | error fault => rfl
        | ok made => exact ih made.1
  rw [enactList, Rulebook.enactList]
  cases rules.items? with
  | none => rfl
  | some values => exact each values book

/-- Work that puts rules in, one after the other, up to the first that is refused. -/
structure PutsIn (values : List Value) (outcome : Except RuleFault Unit × Rulebook) : Prop where
  /-- Rules none of which is refused are all put in. -/
  completes : (∀ value ∈ values, ∃ rule, alone value = .ok rule) →
    outcome = (.ok (), oneByOne book values)
  /-- The first rule that is refused tells why, and those before it stay. -/
  stops : ∀ before value after fault, values = before ++ value :: after →
    (∀ earlier ∈ before, ∃ rule, alone earlier = .ok rule) → alone value = .error fault →
      outcome = (.error fault, oneByOne book before)

theorem putsIn_enactAll (values : List Value) :
    PutsIn book values ((enactAll values).on book) where
  completes accepted := by
    have all := on_enactAll_append book values [] accepted
    rw [List.append_nil] at all
    exact all
  stops before value after fault split accepted refused := by
    rw [split, on_enactAll_append book before _ accepted, enactAll, on_bind,
      on_enact_of_error _ value fault refused]

/-- **Faults are local.** Whether a rule is refused, and why, does not depend on the rulebook,
which stays as it is then. A list of rules is put in up to the first one that is refused, and
what is no list changes nothing. -/
theorem faults_local :
    (∀ value, (∀ other, ((enact value).on book).1 = ((enact value).on other).1) ∧
      ∀ fault, ((enact value).on book).1 = .error fault → ((enact value).on book).2 = book) ∧
    (∀ rules values, rules.items? = some values →
      PutsIn book values ((enactList rules).on book)) ∧
    ∀ rules, rules.items? = none →
      (enactList rules).on book = (.error (.rulesNotAList rules), book) := by
  refine ⟨fun value => ⟨fun other => ?_, fun fault refused => ?_⟩, ?_, ?_⟩
  · rw [fst_on_enact, fst_on_enact]
  · rw [fst_on_enact] at refused
    rw [on_enact_of_error book value fault refused]
  · intro rules values given
    rw [enactList, given]
    exact putsIn_enactAll book values
  · intro rules none
    rw [enactList, none]
    rfl

/-- A rule about comments with a scope that is none is refused after users got the routes, and
neither makes a page about comments nor lets what comes after it in. -/
theorem faults_local_comments :
    let posts := Value.texts ["user", "model:post:1"]
    let routes := Value.texts ["user", "route:/a:1"]
    let comments := Value.texts ["user", "model:comment:read:mine:1"]
    let modules := Value.texts ["user", "module:1"]
    let fault := RuleFault.badScope "user,model:comment:read:mine:1" "mine"
    let book := oneByOne {} [posts]
    (enact comments).on book = (.error fault, book) ∧
      (enactList (.tuple [routes, comments, modules])).on book =
        (.error fault, oneByOne book [routes]) ∧
      (enactList (.list [routes, modules])).on book = (.ok (), oneByOne book [routes, modules]) ∧
      (enactList .null).on book = (.error (.rulesNotAList .null), book) := by
  intro posts routes comments modules fault book
  obtain ⟨one, several, noList⟩ := faults_local book
  have refused : alone comments = .error fault := (alone_eq comments).trans rfl
  have result : ((enact comments).on book).1 = .error fault := ((one comments).1 {}).trans refused
  have accepted : ∀ value ∈ [routes, modules], ∃ rule, alone value = .ok rule := by
    simp only [List.forall_mem_cons, List.not_mem_nil, false_implies, implies_true, and_true]
    exact ⟨⟨_, (alone_eq routes).trans rfl⟩, ⟨_, (alone_eq modules).trans rfl⟩⟩
  refine ⟨Prod.ext result ((one comments).2 fault result), ?_, ?_, noList .null rfl⟩
  · refine (several (.tuple [routes, comments, modules]) _ rfl).stops [routes] comments [modules]
      fault rfl ?_ refused
    exact fun earlier mem => accepted earlier (List.mem_cons.mpr (.inl (List.mem_singleton.mp mem)))
  · exact (several (.list [routes, modules]) _ rfl).completes accepted

end Drafting

end RoleAccess
