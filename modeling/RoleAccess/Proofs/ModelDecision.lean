import RoleAccess.Proofs.Compilation
import RoleAccess.Proofs.Inquiry
import RoleAccess.Proofs.ModelStance
set_option autoImplicit false

/-! # Model decisions are read off the stance

The decision on a model inquiry walks through levels and states and can end at many places.
Whatever way it takes, it comes to the decision of the stance that the rulebook has on the
action (`answer_eq_stance`). The one induction is over the states: the walk through the
rest of the states, from any decision so far, comes to `afterStates`.
-/

namespace RoleAccess

/-! ## One state -/

variable (roles : List Text) (scope : Scope)

/-- The rules for one scope are consulted without fail. -/
theorem result_consultScope (ruleType : Text) (allows : Option Allows)
    (extra : Table Value) :
    ∃ verdict, (consultScope (Value.texts roles) ruleType allows extra).result = .ok verdict ∧
      verdict.decision? = allows.bind (Allows.opinion roles) := by
  cases allows with
  | none => exact ⟨.silent, rfl, rfl⟩
  | some allows =>
      exact ⟨allows.verdict roles, by simp [consultScope, consultAllows_texts],
        allows.decision?_verdict roles⟩

/-- What the rules for a state come to, given what they say for either kind of records. -/
def StateOutcome.ofOpinions (scope : Scope) (deleted : Bool) (any own : Option Bool) :
    StateOutcome :=
  if any = some true ∨ scope = .own ∧ own = some true then .grant
  else if any = some false ∨ own = some false ∨ deleted then .deny
  else .keep

theorem ownStateOutcome_eq (deleted : Bool) (any : Option Bool) (verdict : Verdict)
    (h : any ≠ some true) :
    ownStateOutcome scope (any == some false) deleted verdict =
      StateOutcome.ofOpinions scope deleted any verdict.decision? := by
  rcases any with _ | _ | _ <;> cases verdict <;> cases scope <;> cases deleted <;>
    first | rfl | exact absurd rfl h

theorem result_stateOutcome (state : Text) (pair : ScopedAllows) :
    (stateOutcome (Value.texts roles) scope (.str state) pair).result =
      .ok (StateOutcome.ofOpinions scope (state == deletedState)
        (pair.any.bind (Allows.opinion roles)) (pair.own.bind (Allows.opinion roles))) := by
  unfold stateOutcome
  obtain ⟨anyVerdict, hany, anyOpinion⟩ := result_consultScope roles "state" pair.any
    (stateFields scope .any (.str state))
  obtain ⟨ownVerdict, hown, ownOpinion⟩ := result_consultScope roles "state" pair.own
    (stateFields scope .own (.str state))
  have ownStep (denied : Bool) :
      (consultScope (Value.texts roles) "state" pair.own
          (stateFields scope .own (.str state)) >>= fun verdict =>
        pure (ownStateOutcome scope denied (state == deletedState) verdict)).result =
        .ok (ownStateOutcome scope denied (state == deletedState) ownVerdict) := by
    rw [Trace.bind_eq, Trace.result_andThen_ok _ _ _ hown]
    rfl
  rw [Trace.bind_eq, Trace.result_andThen_ok _ _ _ hany, anyOpinion, ← ownOpinion]
  -- own records are asked about unless any records are allowed, or denied and asked for
  rcases pair.any.bind (Allows.opinion roles) with _ | _ | _
  · rw [← ownStateOutcome_eq scope _ none ownVerdict (by simp)]
    cases scope <;> exact ownStep false
  · cases scope with
    | any => simp [StateOutcome.ofOpinions]
    | own =>
        rw [← ownStateOutcome_eq .own _ (some false) ownVerdict (by simp)]
        exact ownStep true
  · simp [StateOutcome.ofOpinions]

/-! ## All states -/

section States

variable (page : ActionPage) (st : ModelStance)

/-- The stance says about states what the page of the action says. -/
def ModelStance.AgreesOnStates : Prop :=
  ∀ state scope, st.ofState state scope =
    ((page.states.find? state).bind fun pair => pair.get scope).bind (Allows.opinion roles)

variable {roles page st}

theorem ofOpinions_eq_outcome (state : Text) (any own : Option Bool)
    (hany : st.ofState state .any = any) (hown : st.ofState state .own = own) :
    StateOutcome.ofOpinions scope (state == deletedState) any own =
      if st.Grants scope state then .grant else if st.Denies scope state then .deny else .keep := by
  subst hany hown
  unfold StateOutcome.ofOpinions
  by_cases hgrant : st.Grants scope state
  · rw [if_pos hgrant]
    exact if_pos hgrant
  · rw [if_neg hgrant]
    refine (if_neg hgrant).trans ?_
    by_cases hdeny : st.Denies scope state
    · rw [if_pos hdeny]
      exact if_pos (by simpa using hdeny.2)
    · rw [if_neg hdeny]
      exact if_neg fun h => hdeny ⟨hgrant, by simpa using h⟩

/-- One state of the walk: its outcome decides how the walk goes on. -/
theorem result_statesDecision_cons (agrees : st.AgreesOnStates roles page) (state : Text)
    (rest : List Value) (sofar : Bool) :
    (statesDecision (Value.texts roles) scope page (.str state :: rest) sofar).result =
      if st.Grants scope state then
        (statesDecision (Value.texts roles) scope page rest true).result
      else if st.Denies scope state then .ok none
      else (statesDecision (Value.texts roles) scope page rest sofar).result := by
  have lookup : (Trace.ofUse (page.states.lookup (.str state))).result =
      .ok (page.states.find? state) := rfl
  rw [statesDecision, Trace.bind_eq, Trace.result_andThen_ok _ _ _ lookup]
  cases found : page.states.find? state with
  | none =>
      -- a state without rules is passed over, unless it is the deleted one
      have nothing (other : Scope) : st.ofState state other = none := by
        rw [agrees, found]
        rfl
      have ungranted : ¬st.Grants scope state := by
        simp [ModelStance.Grants, nothing]
      simp only [ModelStance.Denies, nothing, ungranted]
      by_cases hdeleted : state = deletedState <;> simp [Value.isText, hdeleted]
  | some pair =>
      have outcome := result_stateOutcome roles scope state pair
      rw [ofOpinions_eq_outcome scope state _ _ (by rw [agrees, found]; rfl)
        (by rw [agrees, found]; rfl)] at outcome
      simp only [Trace.bind_eq]
      rw [Trace.result_andThen_ok _ _ _ outcome]
      by_cases hgrant : st.Grants scope state
      · simp only [if_pos hgrant]
      · by_cases hdeny : st.Denies scope state
        · simp only [if_neg hgrant, if_pos hdeny]
          rfl
        · simp only [if_neg hgrant, if_neg hdeny]

/-- The walk through states comes to the same in every order. -/
theorem result_statesDecision (agrees : st.AgreesOnStates roles page) (states : List Text)
    (sofar : Bool) :
    (statesDecision (Value.texts roles) scope page (states.map .str) sofar).result =
      .ok (st.afterStates scope states sofar) := by
  induction states generalizing sofar with
  | nil => simp [statesDecision, ModelStance.afterStates]
  | cons state rest ih =>
      rw [List.map_cons, result_statesDecision_cons scope agrees]
      -- a grant becomes the decision so far, which the induction leaves open
      by_cases hgrant : st.Grants scope state
      · have undenied : ¬st.Denies scope state := fun denied => denied.1 hgrant
        simp [hgrant, undenied, ih, ModelStance.afterStates]
      · by_cases hdeny : st.Denies scope state
        · simp [hgrant, hdeny, ModelStance.afterStates]
        · simp [hgrant, hdeny, ih, ModelStance.afterStates]

/-- The stance says about scopes what the page of the action says. -/
def ModelStance.AgreesOnScopes (roles : List Text) (page : ActionPage) (st : ModelStance) :
    Prop :=
  ∀ scope, st.ofScope scope = (page.scopes.get scope).bind (Allows.opinion roles)

theorem result_scopesDecision (agrees : st.AgreesOnScopes roles page) (sofar : Bool) :
    (scopesDecision (Value.texts roles) scope page sofar).result =
      .ok ((st.last scope).getD sofar) := by
  unfold scopesDecision
  obtain ⟨verdict, hany, anyOpinion⟩ := result_consultScope roles "action" page.scopes.any
    (scopeFields scope .any)
  have ofAny : st.ofScope .any = page.scopes.any.bind (Allows.opinion roles) := agrees .any
  have ofOwn : st.ofScope .own = page.scopes.own.bind (Allows.opinion roles) := agrees .own
  have ownStep (allow : Bool) := result_applyLevel roles "action" page.scopes.own
    (scopeFields .own .own) allow
  rw [Trace.bind_eq, Trace.result_andThen_ok _ _ _ hany, anyOpinion, ← ofAny]
  unfold ModelStance.last
  rcases st.ofScope .any with _ | _ | _
  · cases scope with
    | any => rfl
    | own =>
        refine (ownStep sofar).trans ?_
        rw [← ofOwn]
        simp
  · cases scope with
    | any => rfl
    | own =>
        refine (ownStep false).trans ?_
        rw [← ofOwn]
        cases st.ofScope .own <;> rfl
  · cases scope <;> rfl

end States

/-! ## The stance of a rulebook -/

/-- The stance of a rulebook on an action. -/
def Rulebook.stance (book : Rulebook) (roles : List Text) (model action : Text) :
    ModelStance where
  general :=
    (((book.modelSection.action? model action).bind ActionPage.allow).bind
      (Allows.opinion roles)).or ((book.opinion roles (.model model)).or (book.opinion roles .models))
  refined :=
    decide (action ≠ createAction) && (book.modelSection.action? model action).isSome
  ofScope scope := book.opinion roles (.action model action scope)
  ofState state scope := book.opinion roles (.state model action state scope)

namespace Rulebook

variable (book : Rulebook) (model action : Text)

theorem stance_agreesOnStates (page : ActionPage)
    (found : book.modelSection.action? model action = some page) :
    (book.stance roles model action).AgreesOnStates roles page := by
  intro state scope
  simp only [stance, opinion_eq_bind, allowsAt, found, Option.bind_some]

theorem stance_agreesOnScopes (page : ActionPage)
    (found : book.modelSection.action? model action = some page) :
    (book.stance roles model action).AgreesOnScopes roles page := by
  intro scope
  simp only [stance, opinion_eq_bind, allowsAt, found, Option.bind_some]

variable {book roles scope}

/-- From the level of the action on, the scopes and the states decide. -/
theorem result_actionDecision (ownership : Ownership) (r : ModelRequest) (page : ActionPage)
    (haction : r.action = .str action) (hscope : ownership.scopeOf r = Trace.done scope)
    (found : book.modelSection.action? model action = some page) (states : List Text)
    (sofar : Bool) :
    (actionDecision ownership (Value.texts roles) r (states.map .str) page sofar).result =
      .ok ((book.stance roles model action).decisionFrom scope states
        ((page.allow.bind (Allows.opinion roles)).getD sofar)) := by
  have level := result_applyLevel roles "action" page.allow [] sofar
  rw [actionDecision, Trace.bind_eq, Trace.result_andThen_ok _ _ _ level, haction]
  by_cases hcreate : action = createAction
  · simp [ModelStance.decisionFrom, stance, hcreate, Value.isText]
  · have refined : (book.stance roles model action).refined = true := by
      simp [stance, hcreate, found]
    have after := result_statesDecision scope
      (book.stance_agreesOnStates roles model action page found) states
      ((page.allow.bind (Allows.opinion roles)).getD sofar)
    have start : (ownership.scopeOf r).result = .ok scope := by rw [hscope]; rfl
    simp only [Value.isText, beq_iff_eq, hcreate, if_false, Trace.bind_eq]
    rw [Trace.result_andThen_ok _ _ _ start, Trace.result_andThen_ok _ _ _ after]
    unfold ModelStance.decisionFrom
    rw [if_pos refined]
    cases (book.stance roles model action).afterStates scope states _ with
    | none => rfl
    | some allow =>
        exact result_scopesDecision scope
          (book.stance_agreesOnScopes roles model action page found) allow

/-- The walk from the level of all models on. -/
theorem result_sectionDecision (ownership : Ownership) (r : ModelRequest)
    (hmodel : r.model = .str model) (haction : r.action = .str action)
    (hscope : ownership.scopeOf r = Trace.done scope) (states : List Text) (sofar : Bool) :
    (book.modelSection.decision ownership (Value.texts roles) r (states.map .str) sofar).result =
      .ok ((book.stance roles model action).decisionFrom scope states
        ((book.stance roles model action).general.getD sofar)) := by
  have levels : (book.stance roles model action).general.getD sofar =
      (((book.modelSection.action? model action).bind ActionPage.allow).bind
        (Allows.opinion roles)).getD
        ((((book.modelSection.models.find? model).bind ModelPage.allow).bind
          (Allows.opinion roles)).getD
          ((book.modelSection.allow.bind (Allows.opinion roles)).getD sofar)) := by
    simp only [stance, opinion_eq_bind, allowsAt, Option.getD_or]
  have unrefined (h : book.modelSection.action? model action = none) :
      (book.stance roles model action).refined = false := by
    simp [stance, h]
  have global := result_applyLevel roles "global" book.modelSection.allow [] sofar
  have lookupModel : (Trace.ofUse (book.modelSection.models.lookup (.str model))).result =
      .ok (book.modelSection.models.find? model) := rfl
  rw [ModelSection.decision, Trace.bind_eq, Trace.result_andThen_ok _ _ _ global, hmodel,
    Trace.bind_eq, Trace.result_andThen_ok _ _ _ lookupModel, levels]
  cases hpage : book.modelSection.models.find? model with
  | none =>
      have nopage : book.modelSection.action? model action = none := by
        rw [ModelSection.action?, hpage, Option.bind_none]
      simp [nopage, ModelStance.decisionFrom, unrefined nopage]
  | some page =>
      have found : book.modelSection.action? model action = page.actions.find? action := by
        rw [ModelSection.action?, hpage, Option.bind_some]
      have level := result_applyLevel roles "model" page.allow []
        ((book.modelSection.allow.bind (Allows.opinion roles)).getD sofar)
      have lookupAction : (Trace.ofUse (page.actions.lookup (.str action))).result =
          .ok (page.actions.find? action) := rfl
      simp only
      rw [ModelPage.decision, Trace.bind_eq, Trace.result_andThen_ok _ _ _ level, haction,
        Trace.bind_eq, Trace.result_andThen_ok _ _ _ lookupAction, found]
      cases hfound : page.actions.find? action with
      | none => simp [ModelStance.decisionFrom, unrefined (found.trans hfound)]
      | some actionPage =>
          rw [Option.bind_some, Option.bind_some]
          exact result_actionDecision model action ownership r actionPage haction hscope
            (found.trans hfound) states _

end Rulebook

theorem statesOf_texts (states : List Text) :
    statesOf (Value.texts states) = .ok (states.map .str) := by
  cases states <;> rfl

theorem any_isText (states : List Text) (text : Text) :
    (states.map Value.str).any (Value.isText text) = decide (text ∈ states) := by
  rw [Bool.eq_iff_iff]
  simp [Value.isText]

namespace Rulebook

variable {book : Rulebook}

/-- The walk through all levels comes to the decision of the stance. -/
theorem result_modelDecision (names : OwnerNames) (q : ModelInquiry) :
    (book.modelDecision names.ownership (Value.texts roles) q.request).result =
      .ok ((book.stance roles q.model q.action).decision (q.scopeFor names) q.states) := by
  have states : (Trace.ofUse (statesOf q.request.states)).result =
      .ok (q.states.map .str) := by
    simp [ModelInquiry.request, statesOf_texts, Trace.done]
  have walk := @result_sectionDecision roles (q.scopeFor names) book q.model q.action
    names.ownership q.request rfl rfl (q.scopeOf_request names) q.states
    (!decide (deletedState ∈ q.states))
  have base : (book.stance roles q.model q.action).base q.states =
      (book.stance roles q.model q.action).general.getD (!decide (deletedState ∈ q.states)) := by
    simp [ModelStance.base]
  rw [ModelStance.decision, base, ← walk, modelDecision, Trace.bind_eq,
    Trace.result_andThen_ok _ _ _ states, Trace.bind_eq, Trace.result_andThen_ok _ _ () rfl]
  simp only [any_isText, modelSection]
  -- an absent section answers like an empty one
  cases book.models <;> rfl

/-- On an open trail, an inquiry is answered by the stance of the rulebook. -/
theorem answer_eq_stance (names : OwnerNames) (trail : Trail) (isOpen : trail.IsOpen)
    (q : ModelInquiry) :
    book.answer names trail roles q =
      .ok ((book.stance roles q.model q.action).decision (q.scopeFor names) q.states) :=
  trail.settle_of_isOpen isOpen _ _ (result_modelDecision roles names q)

end Rulebook

end RoleAccess
