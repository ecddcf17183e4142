import RoleAccess.Decision.Model
import RoleAccess.Proofs.Levels
set_option autoImplicit false

/-! # Inquiries

An inquiry is a model request whose names, states and scope are what they should be; its
session and the owner of its record can be anything. It has a scope: own if the session
stands for the owner of the record, and as given if the record has no owner. What is
answered does not depend on the trail that the audit is left on, as long as the trail is not
complete.
-/

namespace RoleAccess

/-- The names of the session fields that tell owners. -/
structure OwnerNames where
  fields : Table Text := []
  fallback : Text := "accountId"

namespace OwnerNames

/-- Owners told by the named fields. -/
def ownership (names : OwnerNames) : Ownership :=
  { fields := names.fields.mapValues .str, fallback := .str names.fallback }

/-- The session field that names the owner of a model's records. -/
def fieldFor (names : OwnerNames) (model : Text) : Text :=
  (names.fields.find? model).getD names.fallback

theorem fieldFor_ownership (names : OwnerNames) (model : Text) :
    names.ownership.fieldFor (.str model) = .ok (.str (names.fieldFor model)) := by
  simp only [Ownership.fieldFor, ownership, Table.lookup_str, Table.find?_mapValues,
    Except.map, fieldFor]
  cases names.fields.find? model <;> rfl

end OwnerNames

/-- A model request with a model, an action, states and, if it has one, a scope. -/
structure ModelInquiry where
  model : Text
  action : Text
  states : List Text := []
  recordOwner : Value := .null
  scope : Option Scope := none
  session : Value := .null

namespace ModelInquiry

/-- The inquiry as a request. -/
def request (q : ModelInquiry) : ModelRequest :=
  { model := .str q.model
    action := .str q.action
    recordOwner := q.recordOwner
    scope := Record.scopeValue q.scope
    session := q.session
    states := Value.texts q.states }

/-- The session stands for the owner of the record. -/
def isOwned (q : ModelInquiry) (names : OwnerNames) : Bool :=
  match q.session with
  | .obj fields => (Value.field (names.fieldFor q.model) fields).same q.recordOwner
  | _ => false

/-- The scope of an inquiry. -/
def scopeFor (q : ModelInquiry) (names : OwnerNames) : Scope :=
  if q.recordOwner.isNull then q.scope.getD .any
  else if q.isOwned names then .own
  else .any

/-- The states of a record do not tell its owner. -/
theorem scopeFor_withStates (q : ModelInquiry) (names : OwnerNames) (states : List Text) :
    ({ q with states } : ModelInquiry).scopeFor names = q.scopeFor names := rfl

theorem isNull_scopeValue (scope : Option Scope) :
    (Record.scopeValue scope).isNull = scope.isNone := by
  cases scope <;> rfl

theorem ofValue_scopeValue (scope : Scope) :
    Scope.ofValue (Record.scopeValue (some scope)) = .ok scope := by
  simp [Scope.ofValue, Record.scopeValue, Value.text?, Scope.ofName?_name]

/-- The owner that the session stands for is found without fail. -/
theorem owner_ownership (q : ModelInquiry) (names : OwnerNames) :
    ∃ owner, names.ownership.owner (.str q.model) q.session = .ok owner ∧
      (q.recordOwner.isNull = false → owner.same q.recordOwner = q.isOwned names) := by
  obtain ⟨model, action, states, recordOwner, scope, session⟩ := q
  cases session with
  | obj fields =>
      refine ⟨Value.field (names.fieldFor model) fields, ?_, fun _ => rfl⟩
      simp [Ownership.owner, OwnerNames.fieldFor_ownership, bind, Except.bind, pure,
        Except.pure, Value.field]
  | _ =>
      -- such a session stands for nobody, and the owner of a record is somebody
      refine ⟨.null, rfl, fun given => ?_⟩
      cases recordOwner with
      | null => cases given
      | _ => simp [Value.same, isOwned]

/-- The scope of an inquiry is found without an entry and without fail. -/
theorem scopeOf_request (q : ModelInquiry) (names : OwnerNames) :
    names.ownership.scopeOf q.request = Trace.done (q.scopeFor names) := by
  obtain ⟨owner, howner, same⟩ := q.owner_ownership names
  obtain ⟨model, action, states, recordOwner, scope, session⟩ := q
  cases hnull : recordOwner.isNull with
  | true =>
      cases scope with
      | none => simp [Ownership.scopeOf, request, scopeFor, hnull, isNull_scopeValue, Trace.done]
      | some scope =>
          simp [Ownership.scopeOf, request, scopeFor, hnull, isNull_scopeValue,
            ofValue_scopeValue]
  | false =>
      simp [Ownership.scopeOf, request, scopeFor, hnull, howner, same hnull, Trace.andThen,
        Trace.done]

end ModelInquiry

/-- The answer to an inquiry that is made with some roles. -/
def Rulebook.answer (book : Rulebook) (names : OwnerNames) (trail : Trail)
    (roles : List Text) (q : ModelInquiry) : Except Failure Bool :=
  (book.decideModel names.ownership trail (Value.texts roles) q.request).2

/-! ## Open trails -/

/-- A trail is open if its record is; a trail that is off is always open. -/
def Trail.IsOpen (trail : Trail) : Prop := trail.completeRecord? = none

theorem Record.addEntries_of_open (record : Record) (isOpen : record.complete = false)
    (entries : List Entry) :
    record.addEntries entries = .ok { record with entries := record.entries ++ entries } := by
  induction entries generalizing record with
  | nil => simp [addEntries]
  | cons entry rest ih =>
      have added : record.addEntry entry =
          .ok { record with entries := record.entries ++ [entry] } := by
        simp [addEntry, requireOpen, isOpen, Except.map]
      rw [addEntries, added]
      simpa using ih { record with entries := record.entries ++ [entry] } isOpen

/-- What is left on an open trail comes to what it comes to on its own. -/
theorem Trail.snd_settle (trail : Trail) (isOpen : trail.IsOpen) (t : Trace Bool) :
    (trail.settle t).2 = t.result := by
  cases trail with
  | off => cases result : t.result <;> simp [settle, run, addEntries, change, result, setDecision]
  | kept record =>
      have incomplete : record.complete = false := by
        simpa [IsOpen, completeRecord?] using isOpen
      cases result : t.result <;>
        simp [settle, run, addEntries, change, Record.addEntries_of_open record incomplete,
          result, setDecision, Record.setDecision, Record.requireOpen, incomplete, Except.map]

/-- Leaving a decision on an open trail keeps the decision. -/
theorem Trail.settle_of_isOpen (trail : Trail) (isOpen : trail.IsOpen) (t : Trace Bool)
    (allow : Bool) (result : t.result = .ok allow) : (trail.settle t).2 = .ok allow := by
  rw [trail.snd_settle isOpen, result]

/-- A trail keeps the decision that is left on it. -/
theorem Trail.result_of_settle (trail : Trail) (t : Trace Bool) (allow : Bool)
    (settled : (trail.settle t).2 = .ok allow) : t.result = .ok allow := by
  unfold settle run at settled
  cases hadd : trail.addEntries t.entries with
  | error e =>
      rw [hadd] at settled
      cases settled
  | ok next =>
      rw [hadd] at settled
      cases hresult : t.result with
      | error e =>
          rw [hresult] at settled
          cases settled
      | ok found =>
          simp only [hresult] at settled
          split at settled
          · cases settled
          · cases settled
            rfl

/-- A trail keeps the scope that is left on it. -/
theorem Trail.eq_of_settleScope (trail : Trail) (scope found : Option Scope)
    (settled : (trail.settleScope scope).2 = .ok found) : found = scope := by
  unfold settleScope at settled
  split at settled
  · cases settled
  · exact (Except.ok.inj settled).symm

end RoleAccess
