import RoleAccess.Rule.Address
set_option autoImplicit false

/-! # What a rule targets

Where a rule gives its decision can be read off its resource and its clauses without
checking them (`Rule.Targets`). For a rule that is accepted, these are exactly the addresses
it is put in at.
-/

namespace RoleAccess

theorem map_eq_ok_iff {ε α β : Type} (f : α → β) (step : Except ε α) (b : β) :
    step.map f = .ok b ↔ ∃ a, step = .ok a ∧ f a = b := by
  cases step <;> simp [Except.map]

/-! ## Scopes and their names -/

theorem Scope.ofName?_eq_some_iff (name : Text) (scope : Scope) :
    Scope.ofName? name = some scope ↔ name = scope.name := by
  constructor
  · intro h
    unfold Scope.ofName? at h
    split at h
    · next hown => cases h; exact hown
    · split at h
      · next hany => cases h; exact hany
      · cases h
  · rintro rfl
    exact Scope.ofName?_name scope

theorem Scope.name_inj (scope other : Scope) : scope.name = other.name ↔ scope = other := by
  constructor
  · intro h
    have := Scope.ofName?_name scope
    rw [h, Scope.ofName?_name] at this
    exact (Option.some.inj this).symm
  · rintro rfl
    rfl

theorem Address.scopeOf_eq_ok_iff (source clause : Text) (scope : Scope) :
    Address.scopeOf source clause = .ok scope ↔ clause = scope.name := by
  rw [← Scope.ofName?_eq_some_iff]
  unfold Address.scopeOf
  split <;> simp_all

/-! ## Targets -/

namespace Rule

/-- The segments of the path of a route rule; no path stands for all routes. -/
def pathSegments (rule : Rule) : List Text :=
  match rule.clauses with
  | [] => []
  | path :: _ => Path.segments path

/-- The rule gives its decision at an address. -/
def Targets (rule : Rule) : Address → Prop
  | .models => rule.resource = .blanket ∨ rule.resource = .model ∧ rule.clauses = []
  | .model name => rule.resource = .model ∧ rule.clauses = [name]
  | .creation name => rule.resource = .model ∧ rule.clauses = [name, createAction]
  | .action name act scope => rule.resource = .model ∧ rule.clauses = [name, act, scope.name]
  | .state name act state scope =>
      rule.resource = .model ∧ rule.clauses = [name, act, state, scope.name]
  | .modules => rule.resource = .blanket ∨ rule.resource = .module ∧ rule.clauses = []
  | .module name => rule.resource = .module ∧ rule.clauses = [name]
  | .moduleMethod name method => rule.resource = .module ∧ rule.clauses = [name, method]
  | .route segments =>
      rule.resource = .blanket ∧ segments = [] ∨
        rule.resource = .route ∧ rule.clauses.length ≤ 1 ∧ rule.pathSegments = segments
  | .routeMethod segments method =>
      rule.resource = .route ∧ rule.pathSegments = segments ∧ rule.clauses.tail = [method]

instance (rule : Rule) : (address : Address) → Decidable (rule.Targets address)
  | .models | .modules | .route _ => inferInstanceAs (Decidable (_ ∨ _))
  | .model _ | .creation _ | .action .. | .state .. | .module _ | .moduleMethod ..
  | .routeMethod .. => inferInstanceAs (Decidable (_ ∧ _))

/-- The rule is about one action of a model, whatever the state and the scope. -/
def Concerns (rule : Rule) (model action : Text) : Prop :=
  rule.resource = .model ∧ rule.clauses.take 2 = [model, action]

instance (rule : Rule) (model action : Text) : Decidable (rule.Concerns model action) :=
  inferInstanceAs (Decidable (_ ∧ _))

/-- The rule is for everyone or for one of the roles. -/
def IsFor (rule : Rule) (roles : List Text) : Prop :=
  allRole ∈ rule.roles ∨ ∃ role ∈ roles, role ∈ rule.roles

end Rule

/-- The action of a model that an address is about. -/
def Address.modelAction? : Address → Option (Text × Text)
  | .creation name => some (name, createAction)
  | .action name act _ => some (name, act)
  | .state name act _ _ => some (name, act)
  | _ => none

/-! ## Targets are the addresses -/

namespace Address

variable (source : Text) (roles : List Text) (allow : Bool) (clauses : List Text)

theorem ofModelClauses_targets (address other : Address)
    (accepted : ofModelClauses source clauses = .ok address) :
    address = other ↔ Rule.Targets { roles, resource := .model, clauses, allow } other := by
  unfold ofModelClauses at accepted
  split at accepted
  · cases accepted
    cases other <;> simp [Rule.Targets]
  · cases accepted
    cases other <;> simp [Rule.Targets]
  · split at accepted
    · next hcreate =>
        cases accepted
        cases other <;> simp [Rule.Targets, hcreate]
    · cases accepted
  · next name act clause =>
      split at accepted
      · cases accepted
      · obtain ⟨scope, hscope, rfl⟩ := (map_eq_ok_iff _ _ _).mp accepted
        rw [(scopeOf_eq_ok_iff _ _ _).mp hscope]
        cases other <;> simp [Rule.Targets, Scope.name_inj]
  · next name act condition clause =>
      split at accepted
      · cases accepted
      · obtain ⟨scope, hscope, rfl⟩ := (map_eq_ok_iff _ _ _).mp accepted
        rw [(scopeOf_eq_ok_iff _ _ _).mp hscope]
        cases other <;> simp [Rule.Targets, Scope.name_inj]
  · cases accepted

theorem ofModuleClauses_targets (address other : Address)
    (accepted : ofModuleClauses source clauses = .ok address) :
    address = other ↔ Rule.Targets { roles, resource := .module, clauses, allow } other := by
  unfold ofModuleClauses at accepted
  split at accepted <;> cases accepted <;> cases other <;> simp [Rule.Targets]

/-- An accepted path is spelled by its segments. -/
theorem eq_segments_of_segmentsOf (path : Text) (segments : List Text)
    (accepted : segmentsOf source path = .ok segments) : segments = Path.segments path := by
  unfold segmentsOf at accepted
  split at accepted
  · split at accepted <;> cases accepted
    rfl
  · cases accepted

theorem ofRouteClauses_targets (address other : Address)
    (accepted : ofRouteClauses source clauses = .ok address) :
    address = other ↔ Rule.Targets { roles, resource := .route, clauses, allow } other := by
  unfold ofRouteClauses at accepted
  split at accepted
  · cases accepted
    cases other <;> simp [Rule.Targets, Rule.pathSegments]
  · next path =>
      obtain ⟨segments, hpath, rfl⟩ := (map_eq_ok_iff _ _ _).mp accepted
      rw [eq_segments_of_segmentsOf source path segments hpath]
      cases other <;> simp [Rule.Targets, Rule.pathSegments]
  · next path method =>
      obtain ⟨segments, hpath, rfl⟩ := (map_eq_ok_iff _ _ _).mp accepted
      rw [eq_segments_of_segmentsOf source path segments hpath]
      cases other <;> simp [Rule.Targets, Rule.pathSegments]
  · cases accepted

/-- The first two clauses of a model rule are the model and the action it is about. -/
theorem ofModelClauses_modelAction? (address : Address) (model action : Text)
    (accepted : ofModelClauses source clauses = .ok address) :
    address.modelAction? = some (model, action) ↔ clauses.take 2 = [model, action] := by
  unfold ofModelClauses at accepted
  split at accepted
  · cases accepted
    simp [modelAction?]
  · cases accepted
    simp [modelAction?]
  · split at accepted
    · next hcreate =>
        cases accepted
        simp [modelAction?, hcreate]
    · cases accepted
  · split at accepted
    · cases accepted
    · obtain ⟨scope, -, rfl⟩ := (map_eq_ok_iff _ _ _).mp accepted
      simp [modelAction?]
  · split at accepted
    · cases accepted
    · obtain ⟨scope, -, rfl⟩ := (map_eq_ok_iff _ _ _).mp accepted
      simp [modelAction?]
  · cases accepted

theorem ofModuleClauses_modelAction? (address : Address)
    (accepted : ofModuleClauses source clauses = .ok address) :
    address.modelAction? = none := by
  unfold ofModuleClauses at accepted
  split at accepted <;> cases accepted <;> rfl

theorem ofRouteClauses_modelAction? (address : Address)
    (accepted : ofRouteClauses source clauses = .ok address) :
    address.modelAction? = none := by
  unfold ofRouteClauses at accepted
  split at accepted
  · cases accepted
    rfl
  · obtain ⟨segments, -, rfl⟩ := (map_eq_ok_iff _ _ _).mp accepted
    rfl
  · obtain ⟨segments, -, rfl⟩ := (map_eq_ok_iff _ _ _).mp accepted
    rfl
  · cases accepted

end Address

/-- An accepted rule is put in at exactly the addresses it targets. -/
theorem Rule.mem_addresses_iff (rule : Rule) (addresses : List Address)
    (accepted : rule.addresses = .ok addresses) (address : Address) :
    address ∈ addresses ↔ rule.Targets address := by
  obtain ⟨roles, resource, clauses, allow⟩ := rule
  cases resource with
  | blanket =>
      simp only [Rule.addresses] at accepted
      split at accepted
      · cases accepted
        cases address <;> simp [Address.blanket, Targets]
      · cases accepted
  | model =>
      simp only [Rule.addresses, map_eq_ok_iff] at accepted
      obtain ⟨found, hfound, rfl⟩ := accepted
      rw [List.mem_singleton, eq_comm]
      exact Address.ofModelClauses_targets _ roles allow clauses found address hfound
  | module =>
      simp only [Rule.addresses, map_eq_ok_iff] at accepted
      obtain ⟨found, hfound, rfl⟩ := accepted
      rw [List.mem_singleton, eq_comm]
      exact Address.ofModuleClauses_targets _ roles allow clauses found address hfound
  | route =>
      simp only [Rule.addresses, map_eq_ok_iff] at accepted
      obtain ⟨found, hfound, rfl⟩ := accepted
      rw [List.mem_singleton, eq_comm]
      exact Address.ofRouteClauses_targets _ roles allow clauses found address hfound

/-- An accepted rule concerns an action if one of its addresses is about the action. -/
theorem Rule.concerns_iff (rule : Rule) (addresses : List Address)
    (accepted : rule.addresses = .ok addresses) (model action : Text) :
    (∃ address ∈ addresses, address.modelAction? = some (model, action)) ↔
      rule.Concerns model action := by
  obtain ⟨roles, resource, clauses, allow⟩ := rule
  cases resource with
  | blanket =>
      simp only [Rule.addresses] at accepted
      split at accepted
      · cases accepted
        simp [Address.blanket, Address.modelAction?, Concerns]
      · cases accepted
  | model =>
      simp only [Rule.addresses, map_eq_ok_iff] at accepted
      obtain ⟨found, hfound, rfl⟩ := accepted
      simp [Concerns, Address.ofModelClauses_modelAction? _ _ _ _ _ hfound]
  | module =>
      simp only [Rule.addresses, map_eq_ok_iff] at accepted
      obtain ⟨found, hfound, rfl⟩ := accepted
      simp [Concerns, Address.ofModuleClauses_modelAction? _ _ _ hfound]
  | route =>
      simp only [Rule.addresses, map_eq_ok_iff] at accepted
      obtain ⟨found, hfound, rfl⟩ := accepted
      simp [Concerns, Address.ofRouteClauses_modelAction? _ _ _ hfound]

/-! ## Rules about own records -/

/-- The scope of an address, if it has one. -/
def Address.scope? : Address → Option Scope
  | .action _ _ scope => some scope
  | .state _ _ _ scope => some scope
  | _ => none

namespace Rule

/-- The rule is about own records, in some state or without regard to states. -/
def IsOwn (rule : Rule) : Prop :=
  ∃ model action, rule.Targets (.action model action .own) ∨
    ∃ state, rule.Targets (.state model action state .own)

theorem IsOwn.scope?_of_targets {rule : Rule} (own : rule.IsOwn) {address : Address}
    (targets : rule.Targets address) : address.scope? = some .own := by
  obtain ⟨model, action, ⟨hmodel, hclauses⟩ | ⟨state, hmodel, hclauses⟩⟩ := own <;>
    cases address <;> simp_all [Targets, Address.scope?, Scope.name_inj]

/-- A rule that targets what is said about an action is about it. -/
theorem concerns_of_targets {rule : Rule} {address : Address} {model action : Text}
    (targets : rule.Targets address) (about : address.modelAction? = some (model, action)) :
    rule.Concerns model action := by
  cases address <;> simp only [Address.modelAction?, Option.some.injEq, Prod.mk.injEq,
    reduceCtorEq] at about <;> obtain ⟨rfl, rfl⟩ := about
  all_goals exact ⟨targets.1, by rw [targets.2]; rfl⟩

theorem state_inj_of_targets {rule : Rule} {model action state other : Text} {scope : Scope}
    (targets : rule.Targets (.state model action state scope))
    (targets' : rule.Targets (.state model action other scope)) : state = other := by
  have clauses := targets.2.symm.trans targets'.2
  simpa using clauses

/-- Creation has no states. -/
theorem ne_createAction_of_targets (rule : Rule) (addresses : List Address)
    (accepted : rule.addresses = .ok addresses) {model action state : Text} {scope : Scope}
    (targets : rule.Targets (.state model action state scope)) : action ≠ createAction := by
  rintro rfl
  obtain ⟨hmodel, hclauses⟩ := targets
  simp [Rule.addresses, hmodel, hclauses, Address.ofModelClauses, Except.map] at accepted

end Rule

end RoleAccess
