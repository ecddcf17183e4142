import RoleAccess.Proofs.Rulings
set_option autoImplicit false

/-! # Queries of the right types

A query has the right types if its names and states are texts and its scope, where one is
asked for, is a scope. Every rulebook rules on such a query, whatever it holds, as long as
the roles are texts, too. The session and the owner of a record can be anything, and so can
the scope of a creation, for nobody looks at it.
-/

namespace RoleAccess

/-! ## Model requests -/

/-- A model request of the right types. -/
structure ModelRequest.IsTyped (r : ModelRequest) : Prop where
  model : ∃ name, r.model = .str name
  action : ∃ name, r.action = .str name
  /-- All that is met when the states are gone through is texts. -/
  states : ∃ states : List Text, statesOf r.states = .ok (states.map .str)
  /-- A scope that counts is absent or one of the two. -/
  scope : r.action = .str createAction ∨ r.scope = .null ∨
    ∃ scope : Scope, r.scope = .str scope.name

variable (ownership : Ownership) (roles : Value)

/-- Creation does not look at the scope. -/
theorem actionDecision_congr (r r' : ModelRequest) (states : List Value) (page : ActionPage)
    (sofar : Bool) (action : r.action = r'.action)
    (scope : r.action = .str createAction ∨ ownership.scopeOf r = ownership.scopeOf r') :
    actionDecision ownership roles r states page sofar =
      actionDecision ownership roles r' states page sofar := by
  unfold actionDecision
  rw [← action]
  obtain creates | same := scope
  · have isCreation : r.action.isText createAction = true := by simp [creates, Value.isText]
    simp only [isCreation, if_true]
  · rw [same]

/-- A decision depends on a model request by its names, its states and its scope. -/
theorem Rulebook.modelDecision_congr (book : Rulebook) (r r' : ModelRequest)
    (model : r.model = r'.model) (action : r.action = r'.action)
    (states : statesOf r.states = statesOf r'.states)
    (scope : r.action = .str createAction ∨ ownership.scopeOf r = ownership.scopeOf r') :
    book.modelDecision ownership roles r = book.modelDecision ownership roles r' := by
  simp only [modelDecision, ModelSection.decision, ModelPage.decision, model, states, ← action,
    actionDecision_congr ownership roles r r' _ _ _ action scope]

/-- A request asks what an inquiry does. The scope of a creation does not count. -/
structure ModelRequest.Asks (r : ModelRequest) (q : ModelInquiry) : Prop where
  model : r.model = .str q.model
  action : r.action = .str q.action
  states : statesOf r.states = .ok (q.states.map .str)
  recordOwner : r.recordOwner = q.recordOwner
  session : r.session = q.session
  scope : r.action = .str createAction ∨ r.scope = Record.scopeValue q.scope

/-- What asks the same is decided in the same way. -/
theorem ModelRequest.Asks.modelDecision_eq {r : ModelRequest} {q : ModelInquiry}
    (asks : r.Asks q) (book : Rulebook) :
    book.modelDecision ownership roles r = book.modelDecision ownership roles q.request := by
  apply book.modelDecision_congr ownership roles r q.request asks.model asks.action
  · exact asks.states.trans (statesOf_texts q.states).symm
  · refine asks.scope.imp_right fun given => ?_
    simp only [Ownership.scopeOf, given, asks.model, asks.recordOwner, asks.session]
    rfl

namespace ModelRequest.IsTyped

variable {r : ModelRequest}

/-- A request of the right types asks what some inquiry does. -/
theorem exists_asked (typed : r.IsTyped) : ∃ q : ModelInquiry, r.Asks q := by
  obtain ⟨⟨model, hmodel⟩, ⟨action, haction⟩, ⟨states, hstates⟩, hscope⟩ := typed
  have asked (scope : Option Scope)
      (same : r.action = .str createAction ∨ r.scope = Record.scopeValue scope) :
      ∃ q : ModelInquiry, r.Asks q :=
    ⟨{ model, action, states, recordOwner := r.recordOwner, scope, session := r.session },
      hmodel, haction, hstates, rfl, rfl, same⟩
  rcases hscope with creates | absent | ⟨scope, given⟩
  · exact asked none (Or.inl creates)
  · exact asked none (Or.inr absent)
  · exact asked (some scope) (Or.inr given)

/-- Every rulebook decides a request of the right types. -/
theorem exists_decision (typed : r.IsTyped) (book : Rulebook) (names : OwnerNames)
    (roles : List Text) :
    ∃ allow, (book.modelDecision names.ownership (Value.texts roles) r).result = .ok allow := by
  obtain ⟨q, asks⟩ := typed.exists_asked
  rw [asks.modelDecision_eq]
  exact ⟨_, Rulebook.result_modelDecision roles names q⟩

/-- The right types of a request do not hang on which of the two scopes it has. -/
theorem inScope {scope : Scope} (typed : (r.inScope scope).IsTyped) (other : Scope) :
    (r.inScope other).IsTyped where
  model := typed.model
  action := typed.action
  states := typed.states
  scope := Or.inr (Or.inr ⟨other, rfl⟩)

end ModelRequest.IsTyped

/-! ## Queries -/

/-- A query of the right types. One for the widest scope is about both scopes, and its own
does not count. -/
def Query.IsTyped : Query → Prop
  | .model r => r.IsTyped
  | .modelScope r => (r.inScope .any).IsTyped
  | .module r => ∃ module method, r.module = .str module ∧ r.method = .str method
  | .route r => ∃ path method, r.path = .str path ∧ r.method = .str method

namespace Rulebook

variable (book : Rulebook)

theorem exists_moduleDecision (roles : List Text) (r : ModuleRequest) (module method : Text)
    (hmodule : r.module = .str module) (hmethod : r.method = .str method) :
    ∃ allow, (book.moduleDecision (Value.texts roles) r).result = .ok allow := by
  obtain ⟨_, _, session⟩ := r
  cases hmodule
  cases hmethod
  exact ⟨_, book.result_moduleDecision roles module method⟩

theorem exists_routeDecision (roles : List Text) (r : RouteRequest) (path method : Text)
    (hpath : r.path = .str path) (hmethod : r.method = .str method) :
    ∃ allow, (book.routeDecision (Value.texts roles) r).result = .ok allow := by
  obtain ⟨_, _, session⟩ := r
  cases hpath
  cases hmethod
  exact ⟨_, book.result_routeDecision roles method path⟩

/-- Every rulebook rules on a query of the right types. -/
theorem exists_ruling (query : Query) (typed : query.IsTyped) (names : OwnerNames)
    (roles : List Text) :
    ∃ ruling, book.ruling (Value.texts roles) names.ownership query = .ok ruling := by
  cases query with
  | model r =>
      obtain ⟨allow, decided⟩ := ModelRequest.IsTyped.exists_decision typed book names roles
      exact ⟨.decision allow, congrArg (Except.map _) decided⟩
  | modelScope r =>
      have both := ModelRequest.IsTyped.inScope typed
      obtain ⟨allow, decided⟩ := (both .any).exists_decision book names roles
      obtain ⟨allowOwn, decidedOwn⟩ := (both .own).exists_decision book names roles
      rw [ruling, widestRuling, decided]
      cases allow with
      | true => exact ⟨.widest (some .any), rfl⟩
      | false =>
          simp only [decidedOwn]
          exact ⟨_, rfl⟩
  | module r =>
      obtain ⟨module, method, hmodule, hmethod⟩ := typed
      obtain ⟨allow, decided⟩ := book.exists_moduleDecision roles r module method hmodule hmethod
      exact ⟨.decision allow, congrArg (Except.map _) decided⟩
  | route r =>
      obtain ⟨path, method, hpath, hmethod⟩ := typed
      obtain ⟨allow, decided⟩ := book.exists_routeDecision roles r path method hpath hmethod
      exact ⟨.decision allow, congrArg (Except.map _) decided⟩

end Rulebook

end RoleAccess
