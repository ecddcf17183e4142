import RoleAccess.Decision.Module
import RoleAccess.Proofs.ModelDecision
import RoleAccess.Proofs.Records
set_option autoImplicit false

/-! # Answers about the widest scope and about modules

The widest scope that an inquiry is allowed for is told by two decisions of the same stance,
and a module request by the last of three levels that says something. The two decisions
about scopes are left on one trail, so it has to stay open after the first:
`Trail.TakesScope` says which trails do.
-/

namespace RoleAccess

namespace Trail

/-! ## Trails of checks for the widest scope -/

/-- The trail takes decisions and then a scope: it is off, or its record is open and belongs
to a check for the widest scope. -/
def TakesScope : Trail → Prop
  | off => True
  | kept record => record.kind = .modelScope ∧ record.complete = false

theorem TakesScope.isOpen {trail : Trail} (takes : trail.TakesScope) : trail.IsOpen := by
  cases trail with
  | off => rfl
  | kept record => simp [IsOpen, completeRecord?, takes.2]

/-- A decision does not use such a trail up. -/
theorem TakesScope.settle {trail : Trail} (takes : trail.TakesScope) (t : Trace Bool)
    (allow : Bool) (result : t.result = .ok allow) :
    ∃ next, trail.settle t = (next, .ok allow) ∧ next.TakesScope := by
  cases trail with
  | off =>
      refine ⟨off, ?_, trivial⟩
      simp [Trail.settle, run, addEntries, change, result, setDecision]
  | kept record =>
      obtain ⟨kind, isOpen⟩ := takes
      refine ⟨_, settle_kept record isOpen t allow result, kind, ?_⟩
      rw [Record.decided, kind]
      rfl

theorem TakesScope.settleScope {trail : Trail} (takes : trail.TakesScope)
    (scope : Option Scope) : (trail.settleScope scope).2 = .ok scope := by
  cases trail with
  | off => rfl
  | kept record => rw [settleScope_kept record takes.2]

end Trail

/-! ## The widest scope -/

/-- How wide a scope is: nothing, own records, any records. -/
def Scope.width : Option Scope → Nat
  | none => 0
  | some .own => 1
  | some .any => 2

theorem Scope.eq_of_width {scope other : Option Scope}
    (same : Scope.width scope = Scope.width other) : scope = other := by
  rcases scope with _ | _ | _ <;> rcases other with _ | _ | _ <;> simp_all [Scope.width]

/-- The widest scope in which a stance allows something for a record in some states. -/
def ModelStance.widest (st : ModelStance) (states : List Text) : Option Scope :=
  if st.decision .any states then some .any
  else if st.decision .own states then some .own
  else none

namespace Rulebook

/-- The widest scope that an inquiry made with some roles is allowed for. -/
def widestAnswer (book : Rulebook) (names : OwnerNames) (trail : Trail) (roles : List Text)
    (q : ModelInquiry) : Except Failure (Option Scope) :=
  (book.widestScope names.ownership trail (Value.texts roles) q.request).2

variable (book : Rulebook) (roles : List Text)

/-- On a trail that takes it, the widest scope is the one of the stance. -/
theorem widestAnswer_eq_stance (names : OwnerNames) (trail : Trail) (takes : trail.TakesScope)
    (q : ModelInquiry) :
    book.widestAnswer names trail roles q =
      .ok ((book.stance roles q.model q.action).widest q.states) := by
  -- each of the two decisions is about a record of nobody in particular
  have result (scope : Scope) := @result_modelDecision roles book names
    { q with recordOwner := .null, scope := some scope }
  obtain ⟨next, first, takes'⟩ := takes.settle _ _ (result .any)
  obtain ⟨last, second, takes''⟩ := takes'.settle _ _ (result .own)
  have decideAny : book.decideModel names.ownership trail (Value.texts roles)
      (q.request.inScope .any) =
        (next, .ok ((book.stance roles q.model q.action).decision .any q.states)) := first
  have decideOwn : book.decideModel names.ownership next (Value.texts roles)
      (q.request.inScope .own) =
        (last, .ok ((book.stance roles q.model q.action).decision .own q.states)) := second
  unfold widestAnswer widestScope ModelStance.widest
  rw [decideAny]
  cases (book.stance roles q.model q.action).decision .any q.states with
  | true => exact takes'.settleScope _
  | false =>
      simp only [decideOwn]
      cases (book.stance roles q.model q.action).decision .own q.states with
      | true => exact takes''.settleScope _
      | false => exact takes''.settleScope _

/-! ## Modules -/

/-- The answer to a request for a method of a module. -/
def moduleAnswer (book : Rulebook) (trail : Trail) (roles : List Text)
    (module method : Text) : Except Failure Bool :=
  (book.decideModule trail (Value.texts roles) { module := .str module, method := .str method }).2

/-- What is said about a method of a module: by the method, else by the module, else by all
modules. -/
def moduleOpinion (book : Rulebook) (roles : List Text) (module method : Text) :
    Option Bool :=
  (book.opinion roles (.moduleMethod module method)).or
    ((book.opinion roles (.module module)).or (book.opinion roles .modules))

/-- No section comes to as much as an empty one. -/
theorem moduleDecision_str (asking : Value) (module method : Text) :
    book.moduleDecision asking { module := .str module, method := .str method } =
      book.moduleSection.decision asking { module := .str module, method := .str method } true := by
  rw [moduleDecision, moduleSection]
  cases book.modules <;> rfl

theorem result_moduleDecision (module method : Text) :
    (book.moduleDecision (Value.texts roles)
      { module := .str module, method := .str method }).result =
        .ok ((book.moduleOpinion roles module method).getD true) := by
  have levels : (book.moduleOpinion roles module method).getD true =
      ((((book.moduleSection.modules.find? module).bind fun page =>
        page.methods.find? method).bind (Allows.opinion roles)).getD
        ((((book.moduleSection.modules.find? module).bind ModulePage.allow).bind
          (Allows.opinion roles)).getD
          ((book.moduleSection.allow.bind (Allows.opinion roles)).getD true))) := by
    simp only [moduleOpinion, opinion_eq_bind, allowsAt, Option.getD_or]
  have global := result_applyLevel roles "global" book.moduleSection.allow [] true
  have lookup : (Trace.ofUse (book.moduleSection.modules.lookup (.str module))).result =
      .ok (book.moduleSection.modules.find? module) := rfl
  rw [levels, moduleDecision_str, ModuleSection.decision, Trace.bind_eq,
    Trace.result_andThen_ok _ _ _ global, Trace.bind_eq, Trace.result_andThen_ok _ _ _ lookup]
  cases book.moduleSection.modules.find? module with
  | none => rfl
  | some page =>
      have level := result_applyLevel roles "module" page.allow []
        ((book.moduleSection.allow.bind (Allows.opinion roles)).getD true)
      have lookupMethod : (Trace.ofUse (page.methods.lookup (.str method))).result =
          .ok (page.methods.find? method) := rfl
      simp only [ModulePage.decision]
      rw [Trace.bind_eq, Trace.result_andThen_ok _ _ _ level, Trace.bind_eq,
        Trace.result_andThen_ok _ _ _ lookupMethod, result_applyLevel]
      rfl

/-- On an open trail, a module request is answered by the last level that says something. -/
theorem moduleAnswer_eq_opinion (trail : Trail) (isOpen : trail.IsOpen)
    (module method : Text) :
    book.moduleAnswer trail roles module method =
      .ok ((book.moduleOpinion roles module method).getD true) :=
  trail.settle_of_isOpen isOpen _ _ (book.result_moduleDecision roles module method)

end Rulebook

end RoleAccess
