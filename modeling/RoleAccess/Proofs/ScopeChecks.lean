import RoleAccess.Proofs.Auditing
import RoleAccess.Proofs.SealedRecords
set_option autoImplicit false

/-! # Checks of the widest scope agree with checks of models

A check of the widest scope comes to what two model checks come to, one in each scope: to any
records if those are allowed, else to own ones if those are. The owner and the scope that are
passed along do not count. If a model check that is needed fails, so does this one, in the
same way, as long as all of them are audited or none is, or there is an id for a record to name. It
keeps one record, which holds the entries of the two records that the model checks keep.
-/

namespace RoleAccess

/-- The widest scope in which something is allowed. Own records are asked about only if any
records are denied. -/
def Scope.widestOf (allowedIn : Scope → Except Failure Bool) : Except Failure (Option Scope) := do
  if ← allowedIn .any then return some .any
  else if ← allowedIn .own then return some .own
  else return none

/-! ## Validation -/

theorem Scope.ofValue_name (scope : Scope) : Scope.ofValue (.str scope.name) = .ok scope :=
  ModelInquiry.ofValue_scopeValue scope

/-- A scope is all that a request for the widest scope lacks to be valid. -/
theorem ModelRequest.validate_inScope (r : ModelRequest) (scope : Scope) :
    (r.inScope scope).validate true = r.validate false := by
  have valid : validateScope (r.inScope scope) = .ok () := by
    simp [validateScope, inScope, Scope.ofValue_name, Value.isNull, Except.map]
  simp only [validate, valid]
  rfl

/-! ## The ruling -/

/-- The widest scope is told by the decisions in the two scopes. -/
theorem Rulebook.widestRuling_eq (book : Rulebook) (ownership : Ownership) (roles : Value)
    (r : ModelRequest) :
    book.widestRuling roles ownership r =
      Scope.widestOf fun scope =>
        (book.modelDecision ownership roles (r.inScope scope)).result := by
  rw [← result_widestTrace, widestTrace]
  simp only [Scope.widestOf, Trace.result_bind, apply_ite Trace.result]
  rfl

namespace Policy

variable (policy : Policy) (r : ModelRequest)

theorem validate_inScope (scope : Scope) :
    policy.validate (.model (r.inScope scope)) = policy.validate (.modelScope r) := by
  unfold validate
  cases policy.config.strict with
  | true => exact r.validate_inScope scope
  | false =>
      simp [Query.validateScope, ModelRequest.inScope, Scope.ofValue_name, Value.isNull,
        Except.map]

/-- The decision on a request in a scope. -/
def decisionIn (scope : Scope) : Trace Bool :=
  policy.book.modelDecision policy.ownership (rolesOf r.session) (r.inScope scope)

/-- Whether a model check of the request in a scope allows it. -/
def allowedIn (audit : Value) (scope : Scope) : Except Failure Bool :=
  (policy.check (.model (r.inScope scope)) audit).result.map fun checked => checked.ruling.allowed

variable {policy}

theorem IsFresh.allowedIn_eq (fresh : policy.IsFresh) {audit : Value}
    (can : policy.CanRecord audit) (scope : Scope) :
    policy.allowedIn r audit scope =
      (policy.rulingOn (.model (r.inScope scope))).map Ruling.allowed := by
  rw [← fresh.ruling_check _ can, allowedIn]
  cases (policy.check (.model (r.inScope scope)) audit).result <;> rfl

/-- The rules are asked the same by all checks that have ids for their records. -/
theorem IsFresh.ruling_check_modelScope_of_can (fresh : policy.IsFresh) {audit other : Value}
    (can : policy.CanRecord audit) (canOther : policy.CanRecord other) :
    (policy.check (.modelScope r) audit).result.map Checked.ruling =
      (Scope.widestOf (policy.allowedIn r other)).map .widest := by
  have told : policy.allowedIn r other = fun scope =>
      (policy.rulingOn (.model (r.inScope scope))).map Ruling.allowed :=
    funext (fresh.allowedIn_eq r canOther)
  rw [fresh.ruling_check _ can, told]
  -- all three checks are validated alike, and what is left is what the rules say
  simp only [rulingOn, validate_inScope]
  cases policy.validate (.modelScope r) with
  | error fault => rfl
  | ok _ =>
      have decided (scope : Scope) :
          (policy.book.ruling (rolesOf r.session) policy.ownership
            (.model (r.inScope scope))).map Ruling.allowed =
            (policy.decisionIn r scope).result := by
        show ((policy.decisionIn r scope).result.map Ruling.decision).map Ruling.allowed = _
        cases (policy.decisionIn r scope).result <;> rfl
      show (policy.book.widestRuling (rolesOf r.session) policy.ownership r).map Ruling.widest = _
      rw [Rulebook.widestRuling_eq]
      exact congrArg (fun allowedIn => (Scope.widestOf allowedIn).map Ruling.widest)
        (funext decided).symm

/-- All checks fail alike if none of them has an id for its record. -/
theorem IsFresh.ruling_check_modelScope_of_cannot (fresh : policy.IsFresh)
    {audit other : Value} (cannot : ¬policy.CanRecord audit)
    (cannotOther : ¬policy.CanRecord other) :
    (policy.check (.modelScope r) audit).result.map Checked.ruling =
      (Scope.widestOf (policy.allowedIn r other)).map .widest := by
  -- the check in any scope comes first, and is validated like this one
  have first := policy.validate_inScope r .any
  cases valid : policy.validate (.modelScope r) with
  | error fault =>
      rw [valid] at first
      rw [Scope.widestOf, allowedIn, policy.check_of_refused _ _ fault valid,
        policy.check_of_refused _ _ fault first]
      rfl
  | ok _ =>
      rw [valid] at first
      obtain ⟨fault, failed, refused⟩ := fresh.check_of_surrogates _ _ valid cannot
      obtain ⟨fault', failed', refused'⟩ := fresh.check_of_surrogates _ _ first cannotOther
      obtain rfl : fault = fault' := by
        rw [failed] at failed'
        cases failed'
        rfl
      rw [Scope.widestOf, allowedIn, refused, refused']
      rfl

theorem IsFresh.ruling_check_modelScope (fresh : policy.IsFresh) {audit other : Value}
    (alike : policy.CanRecord audit ↔ policy.CanRecord other) :
    (policy.check (.modelScope r) audit).result.map Checked.ruling =
      (Scope.widestOf (policy.allowedIn r other)).map .widest := by
  by_cases can : policy.CanRecord audit
  · exact fresh.ruling_check_modelScope_of_can r can (alike.mp can)
  · exact fresh.ruling_check_modelScope_of_cannot r can (mt alike.mpr can)

/-! ## The record -/

/-- A check that is audited and passes has an id for its record. -/
theorem IsFresh.isUnicode_of_check (fresh : policy.IsFresh) {query : Query} {audit : Value}
    {checked : Checked} (audited : policy.audits audit = true)
    (valid : policy.validate query = .ok ())
    (passed : (policy.check query audit).result = .ok checked) : policy.IsUnicode := by
  by_cases can : policy.CanRecord audit
  · exact can audited
  · obtain ⟨fault, -, failed⟩ := fresh.check_of_surrogates query audit valid can
    rw [failed] at passed
    cases passed

/-- An audited check rules along a new record. -/
theorem IsFresh.result_check_audited (fresh : policy.IsFresh) (query : Query) (audit : Value)
    (audited : policy.audits audit = true) (unicode : policy.IsUnicode)
    (valid : policy.validate query = .ok ()) :
    ∃ opened : Record, opened.kind = query.kind ∧ opened.entries = [] ∧
      opened.complete = false ∧
      ∀ trail ruling, policy.book.rule policy.ownership (.kept opened) query.roles query =
        (trail, .ok ruling) → (policy.check query audit).result = .ok { ruling, trail } := by
  obtain ⟨id, computed⟩ := unicode.exists_fingerprint
  obtain ⟨identified, opened⟩ := fresh.openTrail query audit audited computed
  refine ⟨{ id := .str id, kind := query.kind, args := query.given }, rfl, rfl, rfl, ?_⟩
  intro trail ruling ruled
  have sameOwners : ({ policy with id := some id } : Policy).ownership = policy.ownership := rfl
  rw [check, valid]
  simp only [Outcome.result_andThen, opened, identified, bind, Except.bind, ruleOn, sameOwners,
    ruled, Except.map]

variable (fresh : policy.IsFresh) (audit : Value) (audited : policy.audits audit = true)
variable (unicode : policy.IsUnicode) (valid : policy.validate (.modelScope r) = .ok ())

include fresh audited unicode valid

/-- The record of an audited model check in a scope holds the entries of the decision. -/
theorem IsFresh.exists_record_model (scope : Scope) (allow : Bool)
    (result : (policy.decisionIn r scope).result = .ok allow) :
    ∃ record : Record, (policy.check (.model (r.inScope scope)) audit).result =
        .ok { ruling := .decision allow, trail := .kept record } ∧
      record.entries = (policy.decisionIn r scope).entries := by
  have valid := (policy.validate_inScope r scope).trans valid
  obtain ⟨opened, kind, empty, isOpen, checked⟩ :=
    fresh.result_check_audited _ audit audited unicode valid
  have settled := Trail.settle_kept opened isOpen (policy.decisionIn r scope) allow result
  have ruled : policy.book.rule policy.ownership (.kept opened)
      (Query.model (r.inScope scope)).roles (.model (r.inScope scope)) =
        (.kept (opened.decided (policy.decisionIn r scope).entries allow),
          .ok (.decision allow)) := by
    show (((Trail.kept opened).settle (policy.decisionIn r scope)).1, Except.map _
      ((Trail.kept opened).settle (policy.decisionIn r scope)).2) = _
    rw [settled]
    rfl
  refine ⟨_, checked _ _ ruled, ?_⟩
  rw [Record.decided, empty, List.nil_append]

/-- The record of an audited check of the widest scope holds the entries of both decisions. -/
theorem IsFresh.exists_record_modelScope (scope : Option Scope)
    (widest : policy.book.widestRuling (rolesOf r.session) policy.ownership r = .ok scope) :
    ∃ record : Record, (policy.check (.modelScope r) audit).result =
        .ok { ruling := .widest scope, trail := .kept record } ∧
      record.complete = true ∧ record.decision = .bool scope.isSome ∧
      record.entries =
        (policy.book.widestTrace policy.ownership (rolesOf r.session) r).entries := by
  obtain ⟨opened, kind, empty, isOpen, checked⟩ :=
    fresh.result_check_audited _ audit audited unicode valid
  have kept := policy.book.widestScope_kept policy.ownership (rolesOf r.session) r opened kind
    isOpen scope widest
  have ruled : policy.book.rule policy.ownership (.kept opened) (Query.modelScope r).roles
      (.modelScope r) =
        (.kept ((opened.decided (policy.book.widestTrace policy.ownership (rolesOf r.session)
          r).entries scope.isSome).scoped scope), .ok (.widest scope)) := by
    rw [Rulebook.rule]
    show ((policy.book.widestScope _ _ (rolesOf r.session) r).1, Except.map _
      (policy.book.widestScope _ _ (rolesOf r.session) r).2) = _
    rw [kept]
    rfl
  refine ⟨_, checked _ _ ruled, rfl, rfl, ?_⟩
  rw [Record.scoped, Record.decided, empty, List.nil_append]

omit fresh audited unicode valid

/-- How the record of a check of the widest scope is put together from those of the model
checks in the two scopes: the second one is made, and its record joined, only if the first one
denies. The decision is the last one that is made. -/
inductive JoinsRecords (policy : Policy) (r : ModelRequest) (audit : Value) (record : Record) :
    Option Scope → Prop
  | any (first : Record)
      (allowed : (policy.check (.model (r.inScope .any)) audit).result =
        .ok { ruling := .decision true, trail := .kept first })
      (entries : record.entries = first.entries) (decision : record.decision = .bool true) :
      JoinsRecords policy r audit record (some .any)
  | own (first second : Record) (allow : Bool)
      (denied : (policy.check (.model (r.inScope .any)) audit).result =
        .ok { ruling := .decision false, trail := .kept first })
      (decided : (policy.check (.model (r.inScope .own)) audit).result =
        .ok { ruling := .decision allow, trail := .kept second })
      (entries : record.entries = first.entries ++ second.entries)
      (decision : record.decision = .bool allow) :
      JoinsRecords policy r audit record (if allow then some .own else none)

variable {r}

theorem validate_of_check {query : Query} {checked : Checked}
    (passed : (policy.check query audit).result = .ok checked) :
    policy.validate query = .ok () := by
  unfold check at passed
  split at passed
  · cases passed
  · next valid => exact valid

/-- The record of a check of the widest scope joins those of the model checks. -/
theorem IsFresh.joinsRecords (fresh : policy.IsFresh) (other : Value)
    (audited : policy.audits audit = true) (otherAudited : policy.audits other = true)
    (checked : Checked) (passed : (policy.check (.modelScope r) audit).result = .ok checked) :
    ∃ record, checked.trail = .kept record ∧ record.complete = true ∧
      policy.JoinsRecords r other record checked.ruling.scope := by
  have valid := validate_of_check audit passed
  have unicode := fresh.isUnicode_of_check audited valid passed
  have can : policy.CanRecord audit := fun _ => unicode
  have ruled := fresh.ruling_check (.modelScope r) can
  rw [passed, rulingOn, valid] at ruled
  obtain ⟨scope, widest, -⟩ := (map_eq_ok_iff _ _ _).mp ruled.symm
  obtain ⟨record, checkedWith, complete, decision, entries⟩ :=
    fresh.exists_record_modelScope r audit audited unicode valid scope widest
  obtain rfl := Except.ok.inj (passed.symm.trans checkedWith)
  refine ⟨record, rfl, complete, ?_⟩
  -- the decisions that were made for the record are those of the model checks
  have single (scope : Scope) (allow : Bool) :=
    fresh.exists_record_model r other otherAudited unicode valid scope allow
  change policy.book.widestRuling (rolesOf r.session) policy.ownership r = .ok scope at widest
  rw [← Rulebook.result_widestTrace] at widest
  obtain ⟨allow, first, rest⟩ := (Trace.result_andThen_eq_ok_iff _ _ _).mp widest
  obtain ⟨firstRecord, firstChecked, firstEntries⟩ := single .any allow first
  cases allow with
  | true =>
      have trace := Rulebook.widestTrace_of_any rfl first
      rw [trace] at widest entries
      obtain rfl : some .any = scope := Except.ok.inj widest
      exact .any firstRecord firstChecked (entries.trans firstEntries.symm) decision
  | false =>
      obtain ⟨allowOwn, second, -⟩ := (Trace.result_andThen_eq_ok_iff _ _ _).mp rest
      obtain ⟨secondRecord, secondChecked, secondEntries⟩ := single .own allowOwn second
      have trace := Rulebook.widestTrace_of_own rfl first rfl second
      rw [trace] at widest entries
      obtain rfl := Except.ok.inj widest
      refine .own firstRecord secondRecord allowOwn firstChecked secondChecked ?_ ?_
      · rw [entries, firstEntries, secondEntries]
        rfl
      · rw [decision]
        cases allowOwn <;> rfl

/-- **Checks of the widest scope agree with checks of models.** In every reachable policy, a
check of the widest scope comes to what model checks of the same request come to in the two
scopes, and fails like the one of them that fails. The owner and the scope passed along do not
count. It does not matter either which of the checks are audited, if the policy has an id to be
told at all; without one the checks must be audited alike. Something is allowed exactly if there
is a scope. An audited check keeps one record, which is complete and joins those of the model
checks. -/
theorem check_modelScope_joins (policy : Policy) (reachable : policy.Reachable)
    (r : ModelRequest) (audit other : Value) :
    (policy.audits audit = policy.audits other ∨ policy.IsUnicode →
        (policy.check (.modelScope r) audit).result.map Checked.ruling =
          (Scope.widestOf (policy.allowedIn r other)).map .widest) ∧
      ∀ checked, (policy.check (.modelScope r) audit).result = .ok checked →
        checked.ruling.allowed = checked.ruling.scope.isSome ∧
          (policy.audits audit = true → policy.audits other = true →
            ∃ record, checked.trail = .kept record ∧ record.complete = true ∧
              policy.JoinsRecords r other record checked.ruling.scope) := by
  have fresh := reachable.isFresh
  refine ⟨?_, ?_⟩
  · rintro (same | unicode)
    · exact fresh.ruling_check_modelScope r (by rw [CanRecord, CanRecord, same])
    · exact fresh.ruling_check_modelScope r (iff_of_true (fun _ => unicode) fun _ => unicode)
  intro checked passed
  constructor
  · have ruled := fresh.ruling_check_modelScope r (Iff.refl (policy.CanRecord audit))
    rw [passed] at ruled
    obtain ⟨scope, -, widest⟩ := (map_eq_ok_iff _ _ _).mp ruled.symm
    have ruling : checked.ruling = .widest scope := widest.symm
    rw [ruling]
    rfl
  · intro audited otherAudited
    exact fresh.joinsRecords audit other audited otherAudited checked passed

/-- Users may read their own posts. They are told so although they pass an owner along, and a
scope that is none. -/
theorem check_modelScope_joins_own_posts :
    let rules := Value.list
      [Value.texts ["all", "model:0"], Value.texts ["user", "model:post:read:own:1"]]
    let session := Value.obj [("sessionId", .str "s1"), ("roles", Value.texts ["user"])]
    let request : ModelRequest :=
      { model := .str "post", action := .str "read", recordOwner := .str "me",
        scope := .str "all", session }
    ∃ policy events, create none .null .null rules = .ok (policy, events) ∧
      policy.Reachable ∧ policy.audits (.bool true) = true ∧
        ∃ checked record,
          (policy.check (.modelScope request) (.bool true)).result = .ok checked ∧
            checked.ruling = .widest (some .own) ∧ checked.trail = .kept record ∧
              record.complete = true ∧
              policy.JoinsRecords request (.bool true) record (some .own) := by
  intro rules session request
  refine ⟨_, _, rfl, ?_⟩
  have reachable := Reachable.created none .null .null rules _ _ rfl
  refine ⟨reachable, rfl, ?_⟩
  have unaudited :=
    (check_modelScope_joins _ reachable request (.bool true) (.bool false)).1
      (Or.inr ⟨by decide +kernel, nofun⟩)
  have audited := (check_modelScope_joins _ reachable request (.bool true) (.bool true)).2
  -- the ruling is computed where no digest is
  obtain ⟨checked, passed, ruling⟩ := (map_eq_ok_iff _ _ _).mp (unaudited.trans rfl)
  obtain ⟨record, kept, complete, joins⟩ := (audited checked passed).2 rfl rfl
  rw [ruling] at joins
  exact ⟨checked, record, passed, ruling, kept, complete, joins⟩

end Policy

end RoleAccess
