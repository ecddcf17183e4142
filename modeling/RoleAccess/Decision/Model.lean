import RoleAccess.Decision.Level
import RoleAccess.Request.Basic
import RoleAccess.Value.Equality
import RoleAccess.Value.Fields
set_option autoImplicit false

/-! # Decisions about models

A model decision starts from general allowance, or from denial for a deleted record, and
goes through the levels for all models, for the model and for the action. Creation ends
there. Any other action has a scope: own if the session owns the record, else any. Then
the states of the record are gone through, each of which grants, denies or keeps the
decision, and the first denial is final; at last come the action's own rules for the two
scopes. A grant for any record is one for an own record, and never the other way round. A
deleted record stays denied unless a rule for that state grants.
-/

namespace RoleAccess

/-- How the owner of a model's records is told: the session field for each model, and the
one for all others. -/
structure Ownership where
  fields : Table Value := []
  fallback : Value

namespace Ownership

/-- Owners told by the fields that a value spells. -/
def ofValue (fields fallback : Value) : Except FieldsFault Ownership :=
  fields.givenAsFields.map fun fields => { fields, fallback }

/-- The session field that names the owner of a model's records. -/
def fieldFor (o : Ownership) (model : Value) : Except Misuse Value :=
  (o.fields.lookup model).map fun field => field.getD o.fallback

/-- The owner that a session stands for, nothing if it names none. -/
def owner (o : Ownership) (model session : Value) : Except Misuse Value :=
  match session with
  | .obj fields => do
      let name ← o.fieldFor model
      return (← Table.lookup fields name).getD .null
  | _ => return .null

/-- The scope of a request: told from the owner if the record has one, else the given scope,
else any. -/
def scopeOf (o : Ownership) (r : ModelRequest) : Trace Scope :=
  if r.recordOwner.isNull then
    if r.scope.isNull then return .any else Trace.ofRequest (Scope.ofValue r.scope)
  else do
    let owner ← Trace.ofUse (o.owner r.model r.session)
    return if owner.same r.recordOwner then .own else .any

end Ownership

/-- The same request for a record of nobody in particular, with a scope. -/
def ModelRequest.inScope (r : ModelRequest) (scope : Scope) : ModelRequest :=
  { r with recordOwner := .null, scope := .str scope.name }

/-- The states of a record: one text is one state, and nothing given is no states. -/
def statesOf (states : Value) : Except Misuse (List Value) :=
  match states with
  | .str s => .ok [.str s]
  | states => if states.truthy then states.elements else .ok []

/-- What the rules for one state come to. -/
inductive StateOutcome where
  | grant
  | deny
  | keep
  deriving DecidableEq, Repr

/-- The further fields of an entry about the rules for one scope. -/
def scopeFields (scope ruleScope : Scope) : Table Value :=
  [("allow_scope", .str scope.name), ("rule_scope", .str ruleScope.name)]

/-- The further fields of an entry about the rules for a state. -/
def stateFields (scope ruleScope : Scope) (state : Value) : Table Value :=
  [("allow_scope", .str scope.name), ("rule_scope", .str ruleScope.name), ("state", state)]

/-- Consults the rules for one scope, silent if there are none. -/
def consultScope (roles : Value) (ruleType : Text) (allows : Option Allows)
    (extra : Table Value) : Trace Verdict :=
  match allows with
  | none => return .silent
  | some allows => consultAllows roles ruleType allows extra

/-- What the own rules for a state come to, after those for any record said nothing final. -/
def ownStateOutcome (scope : Scope) (anyDenied deleted : Bool) : Verdict → StateOutcome
  | .allowed _ =>
      if scope = .own then .grant else if anyDenied || deleted then .deny else .keep
  | .denied => .deny
  | .silent => if anyDenied || deleted then .deny else .keep

/-- What the rules for one state come to. A denial for own records denies any record too. -/
def stateOutcome (roles : Value) (scope : Scope) (state : Value) (pair : ScopedAllows) :
    Trace StateOutcome := do
  let anyVerdict ← consultScope roles "state" pair.any (stateFields scope .any state)
  match anyVerdict.decision?, scope with
  | some true, _ => return .grant
  | some false, .any => return .deny
  | decision, _ => do
      let ownVerdict ← consultScope roles "state" pair.own (stateFields scope .own state)
      return ownStateOutcome scope (decision == some false) (state.isText deletedState) ownVerdict

/-- The decision after the states of a record, nothing if one of them denies. -/
def statesDecision (roles : Value) (scope : Scope) (page : ActionPage) :
    List Value → Bool → Trace (Option Bool)
  | [], sofar => return some sofar
  | state :: rest, sofar => do
      match ← Trace.ofUse (page.states.lookup state) with
      | none =>
          if state.isText deletedState then return none
          else statesDecision roles scope page rest sofar
      | some pair =>
          match ← stateOutcome roles scope state pair with
          | .grant => statesDecision roles scope page rest true
          | .deny => return none
          | .keep => statesDecision roles scope page rest sofar

/-- The decision after an action's rules for the two scopes. -/
def scopesDecision (roles : Value) (scope : Scope) (page : ActionPage) (sofar : Bool) :
    Trace Bool := do
  let anyVerdict ← consultScope roles "action" page.scopes.any (scopeFields scope .any)
  match anyVerdict.decision?, scope with
  | some true, _ => return true
  | some false, .any => return false
  | none, .any => return sofar
  | decision, .own =>
      applyLevel roles "action" page.scopes.own (scopeFields .own .own) (decision.getD sofar)

/-- The decision about an action, from its own level on. -/
def actionDecision (ownership : Ownership) (roles : Value) (r : ModelRequest)
    (states : List Value) (page : ActionPage) (sofar : Bool) : Trace Bool := do
  let allow ← applyLevel roles "action" page.allow [] sofar
  if r.action.isText createAction then return allow
  else do
    let scope ← ownership.scopeOf r
    match ← statesDecision roles scope page states allow with
    | none => return false
    | some allow => scopesDecision roles scope page allow

/-- The decision about a model, from its own level on. -/
def ModelPage.decision (page : ModelPage) (ownership : Ownership) (roles : Value)
    (r : ModelRequest) (states : List Value) (sofar : Bool) : Trace Bool := do
  let allow ← applyLevel roles "model" page.allow [] sofar
  match ← Trace.ofUse (page.actions.lookup r.action) with
  | none => return allow
  | some page => actionDecision ownership roles r states page allow

/-- The decision about models, from the level for all of them on. -/
def ModelSection.decision (part : ModelSection) (ownership : Ownership) (roles : Value)
    (r : ModelRequest) (states : List Value) (sofar : Bool) : Trace Bool := do
  let allow ← applyLevel roles "global" part.allow [] sofar
  match ← Trace.ofUse (part.models.lookup r.model) with
  | none => return allow
  | some page => page.decision ownership roles r states allow

namespace Rulebook

/-- The decision on a model request. -/
def modelDecision (book : Rulebook) (ownership : Ownership) (roles : Value) (r : ModelRequest) :
    Trace Bool := do
  let states ← Trace.ofUse (statesOf r.states)
  let deleted := states.any (Value.isText deletedState)
  Trace.note (.opened deleted (!deleted))
  match book.models with
  | none => return !deleted
  | some part => part.decision ownership roles r states (!deleted)

/-- Decides a model request and leaves the audit on a trail. -/
def decideModel (book : Rulebook) (ownership : Ownership) (trail : Trail) (roles : Value)
    (r : ModelRequest) : Trail × Except Failure Bool :=
  trail.settle (book.modelDecision ownership roles r)

/-- The widest scope a model request is allowed for; both decisions are left on the trail. -/
def widestScope (book : Rulebook) (ownership : Ownership) (trail : Trail) (roles : Value)
    (r : ModelRequest) : Trail × Except Failure (Option Scope) :=
  match book.decideModel ownership trail roles (r.inScope .any) with
  | (next, .error e) => (next, .error e)
  | (next, .ok true) => next.settleScope (some .any)
  | (next, .ok false) =>
      match book.decideModel ownership next roles (r.inScope .own) with
      | (last, .error e) => (last, .error e)
      | (last, .ok true) => last.settleScope (some .own)
      | (last, .ok false) => last.settleScope none

end Rulebook

end RoleAccess
