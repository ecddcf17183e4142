import RoleAccess.Proofs.Auditing
import RoleAccess.Proofs.TypedQueries
set_option autoImplicit false

/-! # How strict checks fail

A strict policy refuses a query before it opens a record, and exactly if the query is not
proper: if a name that it requires is no text or empty, if its session is not usable, if its
states are no texts, or if a model check of another action than creation has nothing to tell
the scope from. Proper queries are of the right types, and those are ruled on whatever the
rules are, as long as the roles of the session are texts, and as long as a check that is audited
has an id for its record.
-/

namespace RoleAccess

/-! ## Proper queries -/

/-- A text that is not empty. -/
def Value.IsNonEmptyText (value : Value) : Prop := ∃ s, value = .str s ∧ s ≠ ""

/-- The items of a sequence other than a text. -/
def Value.sequence? : Value → Option (List Value)
  | .list items | .tuple items => some items
  | .bytes data => some (data.map fun byte => .int byte.toNat)
  | _ => none

/-- The value is a sequence of texts. -/
def Value.IsTextSequence (value : Value) : Prop :=
  ∃ texts : List Text, value.sequence? = some (texts.map .str)

/-- A session is an object with a text as its id and a list of roles. -/
def Value.IsSession (value : Value) : Prop :=
  ∃ fields id roles, value = .obj fields ∧ Value.field "sessionId" fields = .str id ∧
    Value.field "roles" fields = .list roles

namespace Query

/-- The names that a query requires. -/
def names : Query → List Value
  | .model r | .modelScope r => [r.model, r.action]
  | .module r => [r.module, r.method]
  | .route r => [r.path, r.method]

/-- The states of the record that a query is about. -/
def states : Query → Value
  | .model r | .modelScope r => r.states
  | .module _ | .route _ => .null

/-- A query with all that a strict policy requires. -/
structure IsProper (query : Query) : Prop where
  names : ∀ value ∈ query.names, value.IsNonEmptyText
  session : query.session.IsSession
  states : query.states = .null ∨ query.states.IsTextSequence
  /-- The scope is told by the owner of the record, or it is given; creation has none. -/
  scope : ∀ r, query = .model r → r.action ≠ .str createAction →
    r.scope = .null ∧ r.recordOwner ≠ .null ∨ ∃ scope : Scope, r.scope = .str scope.name

/-- The roles that the session of a query lists, if it lists any, are texts. -/
def ListsTexts (query : Query) : Prop :=
  ∀ fields roles, query.session = .obj fields → Value.field "roles" fields = .list roles →
    ∃ texts : List Text, roles = texts.map .str

end Query

/-! ## What validation tells -/

theorem Value.isNull_iff (value : Value) : value.isNull = true ↔ value = .null := by
  cases value <;> simp [isNull]

theorem Value.isText_iff (value : Value) (text : Text) :
    value.isText text = true ↔ value = .str text := by
  cases value <;> simp [isText]

theorem requireName_eq_ok_iff (argument : Text) (value : Value) :
    requireName argument value = .ok () ↔ value.IsNonEmptyText := by
  unfold requireName Value.IsNonEmptyText
  cases value <;> simp [Value.isNonEmptyText]

theorem validateSession_eq_ok_iff (session : Value) :
    validateSession session = .ok () ↔ session.IsSession := by
  unfold validateSession Value.IsSession
  constructor
  · intro valid
    split at valid
    · next fields =>
        split at valid
        · next id hid =>
            split at valid
            · next roles hroles => exact ⟨fields, id, roles, rfl, hid, hroles⟩
            · cases valid
        · cases valid
    · cases valid
  · rintro ⟨fields, id, roles, rfl, hid, hroles⟩
    simp only [hid, hroles]

theorem all_texts_iff (items : List Value) :
    (items.all fun item => item.text?.isSome) = true ↔
      ∃ texts : List Text, items = texts.map .str := by
  constructor
  · intro all
    induction items with
    | nil => exact ⟨[], rfl⟩
    | cons item rest ih =>
        rw [List.all_cons, Bool.and_eq_true] at all
        obtain ⟨texts, htexts⟩ := ih all.2
        cases item with
        | str s => exact ⟨s :: texts, by rw [htexts, List.map_cons]⟩
        | _ => cases all.1
  · rintro ⟨texts, rfl⟩
    simp [Value.text?]

theorem areStates_iff (states : Value) :
    areStates states = true ↔ states = .null ∨ states.IsTextSequence := by
  cases states with
  | list items | tuple items =>
      simp [areStates, Value.IsTextSequence, Value.sequence?, ← all_texts_iff]
  | bytes data =>
      -- the items of a byte string are numbers
      have empty : data.isEmpty = true ↔ ∃ texts : List Text,
          (data.map fun byte => Value.int byte.toNat) = texts.map .str := by
        constructor
        · intro empty
          exact ⟨[], by rw [List.isEmpty_iff.mp empty]; rfl⟩
        · rintro ⟨texts, htexts⟩
          cases data with
          | nil => rfl
          | cons byte rest => cases texts <;> simp at htexts
      simp [areStates, Value.IsTextSequence, Value.sequence?, empty]
  | _ => simp [areStates, Value.IsTextSequence, Value.sequence?]

theorem exists_scope_iff (value : Value) :
    (Scope.ofValue value).map (fun _ => ()) = .ok () ↔
      ∃ scope : Scope, value = .str scope.name := by
  cases value with
  | str s =>
      simp only [Scope.ofValue, Value.text?, Option.bind_some, Value.str.injEq,
        ← Scope.ofName?_eq_some_iff]
      cases Scope.ofName? s <;> simp [Except.map]
  | _ => simp [Scope.ofValue, Value.text?, Except.map]

theorem validateScope_eq_ok_iff (r : ModelRequest) :
    validateScope r = .ok () ↔ (r.action ≠ .str createAction →
      r.scope = .null ∧ r.recordOwner ≠ .null ∨ ∃ scope : Scope, r.scope = .str scope.name) := by
  unfold validateScope
  by_cases creates : r.action = .str createAction
  · rw [if_pos ((r.action.isText_iff createAction).mpr creates)]
    exact iff_of_true rfl fun other => absurd creates other
  · rw [if_neg (mt (r.action.isText_iff createAction).mp creates), forall_prop_of_true creates]
    by_cases absent : r.scope = .null
    · have noScope : ¬∃ scope : Scope, r.scope = .str scope.name := by simp [absent]
      rw [or_iff_left noScope]
      simp [absent, Value.isNull, ← Value.isNull_iff]
    · have given := mt r.scope.isNull_iff.mp absent
      rw [if_neg fun both => given both.2, if_neg given, exists_scope_iff,
        or_iff_right fun left => absent left.1]

theorem then_eq_ok_iff {ε β : Type} (first : Except ε Unit) (next : Except ε β) (b : β) :
    (first >>= fun _ => next) = .ok b ↔ first = .ok () ∧ next = .ok b := by
  rw [bind_eq_ok_iff]
  exact ⟨fun ⟨_, passed, result⟩ => ⟨passed, result⟩, fun ⟨passed, result⟩ => ⟨_, passed, result⟩⟩

theorem ModelRequest.validate_eq_ok_iff (r : ModelRequest) (needsScope : Bool) :
    r.validate needsScope = .ok () ↔ r.model.IsNonEmptyText ∧ r.action.IsNonEmptyText ∧
      r.session.IsSession ∧ (r.states = .null ∨ r.states.IsTextSequence) ∧
        (needsScope = true → validateScope r = .ok ()) := by
  rw [validate, then_eq_ok_iff, then_eq_ok_iff, then_eq_ok_iff, requireName_eq_ok_iff,
    requireName_eq_ok_iff, validateSession_eq_ok_iff, ← areStates_iff]
  cases areStates r.states <;> cases needsScope <;> simp

/-- Strict validation is passed by the proper queries. -/
theorem Query.validate_eq_ok_iff (query : Query) : query.validate = .ok () ↔ query.IsProper := by
  have parts : query.IsProper ↔ (∀ value ∈ query.names, value.IsNonEmptyText) ∧
      query.session.IsSession ∧ (query.states = .null ∨ query.states.IsTextSequence) ∧
        ∀ r, query = .model r → RoleAccess.validateScope r = .ok () := by
    simp only [validateScope_eq_ok_iff]
    exact ⟨fun ⟨names, session, states, scope⟩ => ⟨names, session, states, scope⟩,
      fun ⟨names, session, states, scope⟩ => ⟨names, session, states, scope⟩⟩
  rw [parts]
  cases query with
  | model r => simp [validate, ModelRequest.validate_eq_ok_iff, names, session, states, and_assoc]
  | modelScope r =>
      simp [validate, ModelRequest.validate_eq_ok_iff, names, session, states, and_assoc]
  | module r =>
      simp only [validate, ModuleRequest.validate, then_eq_ok_iff, requireName_eq_ok_iff,
        validateSession_eq_ok_iff]
      simp [names, session, states, and_assoc]
  | route r =>
      simp only [validate, RouteRequest.validate, then_eq_ok_iff, requireName_eq_ok_iff,
        validateSession_eq_ok_iff]
      simp [names, session, states, and_assoc]

/-! ## Proper queries are of the right types -/

theorem Value.IsNonEmptyText.isText {value : Value} (named : value.IsNonEmptyText) :
    ∃ name, value = .str name := by
  obtain ⟨name, text, -⟩ := named
  exact ⟨name, text⟩

/-- Going through states that are a sequence meets its items. -/
theorem statesOf_of_sequence (states : Value) (items : List Value)
    (sequence : states.sequence? = some items) : statesOf states = .ok items := by
  cases states with
  | list found | tuple found =>
      obtain rfl : found = items := Option.some.inj sequence
      cases found <;> rfl
  | bytes data =>
      obtain rfl := Option.some.inj sequence
      cases data <;> rfl
  | _ => cases sequence

theorem exists_statesOf (states : Value) (proper : states = .null ∨ states.IsTextSequence) :
    ∃ texts : List Text, statesOf states = .ok (texts.map .str) := by
  obtain rfl | ⟨texts, sequence⟩ := proper
  · exact ⟨[], rfl⟩
  · exact ⟨texts, statesOf_of_sequence states _ sequence⟩

namespace Query.IsProper

variable {query : Query} (proper : query.IsProper)

include proper

theorem isTyped : query.IsTyped := by
  have text (value : Value) (required : value ∈ query.names) : ∃ name, value = .str name :=
    (proper.names value required).isText
  cases query with
  | model r =>
      constructor
      case model => exact text r.model (by simp [Query.names])
      case action => exact text r.action (by simp [Query.names])
      case states => exact exists_statesOf r.states proper.states
      case scope =>
        by_cases creates : r.action = .str createAction
        · exact Or.inl creates
        · obtain ⟨absent, -⟩ | given := proper.scope r rfl creates
          · exact Or.inr (Or.inl absent)
          · exact Or.inr (Or.inr given)
  | modelScope r =>
      constructor
      case model => exact text r.model (by simp [Query.names])
      case action => exact text r.action (by simp [Query.names])
      case states => exact exists_statesOf r.states proper.states
      case scope => exact Or.inr (Or.inr ⟨.any, rfl⟩)
  | module r =>
      obtain ⟨module, hmodule⟩ := text r.module (by simp [Query.names])
      obtain ⟨method, hmethod⟩ := text r.method (by simp [Query.names])
      exact ⟨module, method, hmodule, hmethod⟩
  | route r =>
      obtain ⟨path, hpath⟩ := text r.path (by simp [Query.names])
      obtain ⟨method, hmethod⟩ := text r.method (by simp [Query.names])
      exact ⟨path, method, hpath, hmethod⟩

/-- A proper query is made with the roles that its session lists. -/
theorem exists_roles (listed : query.ListsTexts) :
    ∃ texts : List Text, query.roles = Value.texts texts := by
  obtain ⟨fields, id, roles, session, -, hroles⟩ := proper.session
  obtain ⟨texts, rfl⟩ := listed fields roles session hroles
  refine ⟨texts, ?_⟩
  simp only [Query.roles, rolesOf, session, hroles]
  rfl

end Query.IsProper

/-! ## Strict checks -/

/-- The two classes of refused requests. -/
theorem RequestFault.cls_eq (fault : RequestFault) :
    fault.cls = .invalidSession ∨ fault.cls = .invalidArgs := by
  cases fault <;> simp [cls]

namespace Policy

variable {policy : Policy}

theorem validate_of_strict (strict : policy.config.strict = true) (query : Query) :
    policy.validate query = query.validate := by
  rw [validate, if_pos strict]

/-- Every proper query is ruled on, if a record of it has an id. -/
theorem IsFresh.exists_check (fresh : policy.IsFresh) (strict : policy.config.strict = true)
    (query : Query) (proper : query.IsProper) (listed : query.ListsTexts) {audit : Value}
    (can : policy.CanRecord audit) :
    ∃ checked, (policy.check query audit).result = .ok checked := by
  obtain ⟨texts, roles⟩ := proper.exists_roles listed
  let names : OwnerNames := { fields := policy.ownerFields, fallback := policy.config.ownerField }
  obtain ⟨ruling, ruled⟩ := policy.book.exists_ruling query proper.isTyped names texts
  -- the ruling is there, and a new record takes it
  have checked := fresh.ruling_check query can
  rw [rulingOn, validate_of_strict strict, query.validate_eq_ok_iff.mpr proper, roles] at checked
  obtain ⟨checked, passed, -⟩ := (map_eq_ok_iff _ _ _).mp (checked.trans ruled)
  exact ⟨checked, passed⟩

/-- The ways in which a strict check fails: it is refused by validation, with an error about the
session or the arguments, or it is proper and there is no id for its record. -/
inductive RefusesStrictly (policy : Policy) (query : Query) (audit : Value) : Failure → Prop
  | invalid (fault : RequestFault) (improper : ¬query.IsProper)
      (refused : policy.validate query = .error fault)
      (cls : fault.cls = .invalidSession ∨ fault.cls = .invalidArgs) :
      RefusesStrictly policy query audit (.request fault)
  | noId (fault : SurrogateFault) (proper : query.IsProper)
      (audited : policy.audits audit = true) (surrogates : ¬policy.IsUnicode)
      (failed : policy.fingerprint = .error (.surrogates fault)) :
      RefusesStrictly policy query audit (.encoding (.surrogates fault))

/-- **Strict checks fail by validation or for surrogates, and cleanly.** A reachable strict
policy rules on every query that lists no roles other than texts, unless the query is not proper
or the check is audited and the rules or the ownership fields hold a surrogate. A query that is
not proper is refused with an error about the session or the arguments; a proper one can fail
with the encoding error of the id only. Either way no record is opened, and the policy is what
it was. -/
theorem check_strict_error_iff (policy : Policy) (reachable : policy.Reachable)
    (strict : policy.config.strict = true) (query : Query) (listed : query.ListsTexts)
    (audit : Value) :
    ((∃ e, (policy.check query audit).result = .error e) ↔
        ¬query.IsProper ∨ policy.audits audit = true ∧ ¬policy.IsUnicode) ∧
      ∀ e, (policy.check query audit).result = .error e →
        policy.RefusesStrictly query audit e ∧
          policy.check query audit = policy.answer (.error e) := by
  have fresh := reachable.isFresh
  cases valid : query.validate with
  | ok _ =>
      have proper := query.validate_eq_ok_iff.mp valid
      have accepted : policy.validate query = .ok () :=
        (validate_of_strict strict query).trans valid
      by_cases can : policy.CanRecord audit
      · obtain ⟨checked, passed⟩ := fresh.exists_check strict query proper listed can
        have unfailing : ∀ e, (policy.check query audit).result ≠ .error e := by
          intro e failed
          rw [passed] at failed
          cases failed
        refine ⟨iff_of_false (fun ⟨e, failed⟩ => unfailing e failed) ?_,
          fun e failed => absurd failed (unfailing e)⟩
        rintro (improper | ⟨audited, surrogates⟩)
        · exact improper proper
        · exact surrogates (can audited)
      · obtain ⟨audited, surrogates⟩ := Classical.not_imp.mp can
        obtain ⟨fault, failed, answered⟩ := fresh.check_of_surrogates query audit accepted can
        refine ⟨iff_of_true ⟨_, congrArg Outcome.result answered⟩
          (Or.inr ⟨audited, surrogates⟩), ?_⟩
        intro e found
        obtain rfl := Except.error.inj ((congrArg Outcome.result answered).symm.trans found)
        exact ⟨.noId fault proper audited surrogates failed, answered⟩
  | error fault =>
      have improper : ¬query.IsProper := by
        intro proper
        rw [query.validate_eq_ok_iff.mpr proper] at valid
        cases valid
      have refused : policy.validate query = .error fault :=
        (validate_of_strict strict query).trans valid
      have answered := policy.check_of_refused query audit fault refused
      refine ⟨iff_of_true ⟨_, congrArg Outcome.result answered⟩ (Or.inl improper), ?_⟩
      intro e failed
      obtain rfl := Except.error.inj ((congrArg Outcome.result answered).symm.trans failed)
      exact ⟨.invalid fault improper refused fault.cls_eq, answered⟩

/-- A query about a draft is ruled on, whether the check is audited or not. A single text in
place of the states is refused, and nothing comes of it. -/
theorem check_strict_error_iff_drafts :
    let rules := Value.list [Value.texts ["all", "model:0"]]
    let session := Value.obj [("sessionId", .str "s1"), ("roles", Value.texts ["user"])]
    let query (states : Value) : Query :=
      .model { model := .str "post", action := .str "read", scope := .str "any", session, states }
    ∃ policy events, create none .null .null rules = .ok (policy, events) ∧
      policy.Reachable ∧ policy.config.strict = true ∧ (∀ states, (query states).ListsTexts) ∧
        (∀ audit, ∃ checked,
          (policy.check (query (Value.texts ["draft"])) audit).result = .ok checked) ∧
        ∀ audit, ∃ e, (policy.check (query (.str "draft")) audit).result = .error e ∧
          policy.RefusesStrictly (query (.str "draft")) audit e ∧
          policy.check (query (.str "draft")) audit = policy.answer (.error e) := by
  intro rules session query
  refine ⟨_, _, rfl, ?_⟩
  have reachable := Reachable.created none .null .null rules _ _ rfl
  have listed : ∀ states, (query states).ListsTexts := by
    intro states fields roles hsession hroles
    cases hsession
    cases hroles
    exact ⟨["user"], rfl⟩
  have law (states : Value) := check_strict_error_iff _ reachable rfl (query states) (listed states)
  refine ⟨reachable, rfl, listed, ?_, ?_⟩
  · intro audit
    have proper : (query (Value.texts ["draft"])).IsProper := (Query.validate_eq_ok_iff _).mp rfl
    cases result : (Policy.check _ (query (Value.texts ["draft"])) audit).result with
    | ok checked => exact ⟨checked, rfl⟩
    | error e =>
        obtain improper | ⟨-, surrogates⟩ := (law _ audit).1.mp ⟨e, result⟩
        · exact absurd proper improper
        · exact absurd ⟨by decide +kernel, nofun⟩ surrogates
  · intro audit
    have improper : ¬(query (.str "draft")).IsProper := by
      intro proper
      cases (Query.validate_eq_ok_iff _).mpr proper
    obtain ⟨e, refused⟩ := (law _ audit).1.mpr (Or.inl improper)
    exact ⟨e, refused, (law _ audit).2 e refused⟩

/-- A surrogate in the name of an owner's field is enough for a strict check of a proper query
to fail otherwise than by validation. -/
theorem check_strict_error_iff_surrogate :
    let surrogate : Text := .ofList [{ number := 0xd800, inRange := by decide }]
    let session := Value.obj [("sessionId", .str "s1"), ("roles", Value.texts ["user"])]
    let query : Query :=
      .model { model := .str "post", action := .str "read", scope := .str "any", session }
    ∃ start events, create none .null .null .null = .ok (start, events) ∧
      let policy := (start.step (.setOwnerField (.str "post") (.str surrogate))).policy
      policy.Reachable ∧ policy.config.strict = true ∧ query.ListsTexts ∧ query.IsProper ∧
        ∃ fault, (policy.check query (.bool true)).result =
          .error (.encoding (.surrogates fault)) := by
  intro surrogate session query
  refine ⟨_, _, rfl, ?_⟩
  intro policy
  have made := Reachable.created none .null .null .null _ _ rfl
  have reachable : policy.Reachable :=
    .called _ (.setOwnerField (.str "post") (.str surrogate)) made
  have listed : query.ListsTexts := by
    intro fields roles hsession hroles
    cases hsession
    cases hroles
    exact ⟨["user"], rfl⟩
  refine ⟨reachable, rfl, listed, (Query.validate_eq_ok_iff _).mp rfl, ?_⟩
  have cannot : ¬policy.CanRecord (.bool true) := by
    intro can
    exact absurd ((can rfl).ownerFields ("post", surrogate) List.mem_cons_self).2 (by decide)
  obtain ⟨fault, -, failed⟩ :=
    reachable.isFresh.check_of_surrogates query (.bool true) rfl cannot
  exact ⟨fault, congrArg Outcome.result failed⟩

end Policy

end RoleAccess
