import RoleAccess.Proofs.OpinionOrder
set_option autoImplicit false

/-! # Allowing own records

A rule that allows something with own records is not meant to open the records of others,
and mostly it does not. But a state that is denied for own records is denied for other
records too (`ModelStance.Denies`), as long as nothing is said about any records in it. A rule
that allows own records in this state takes the denial away (`ModelStance.ClosedByOwn`), and
what is left may allow the request. This is the only way in which it opens anything
(`ModelStance.AllowsOwn.closed_iff`).
-/

namespace RoleAccess

namespace ModelStance

/-- A state that is closed for any records only because it is denied for own ones. -/
structure ClosedByOwn (st : ModelStance) (state : Text) : Prop where
  silent : st.ofState state .any = none
  denied : st.ofState state .own = some false
  kept : state ≠ deletedState

/-- The stance after an allowance for own records, in the `covered` states if in any. -/
structure AllowsOwn (st st' : ModelStance) (covered : Text → Prop) : Prop where
  general : st'.general = st.general
  ofScope : st'.ofScope .any = st.ofScope .any
  ofState : ∀ state, st'.ofState state .any = st.ofState state .any
  denied : ∀ state, st'.ofState state .own = some false ↔
    st.ofState state .own = some false ∧ ¬covered state
  /-- One rule is about one state. -/
  covered_inj : ∀ state other, covered state → covered other → state = other
  refined_of_covered : ∀ state, covered state → st'.refined = true
  refined : st.refined = true → st'.refined = true
  /-- Nothing was said if there were no rules about the action before. -/
  fresh : st.refined = false → st'.refined = true →
    st.ofScope .any = none ∧ ∀ state scope, st.ofState state scope = none

namespace AllowsOwn

variable {st st' : ModelStance} {covered : Text → Prop} {states : List Text}

theorem base_eq (h : st.AllowsOwn st' covered) (states : List Text) :
    st'.base states = st.base states := by
  rw [base, base, h.general]

theorem last_eq (h : st.AllowsOwn st' covered) : st'.last .any = st.last .any := by
  rw [last_any, last_any, h.ofScope]

theorem grants_iff (h : st.AllowsOwn st' covered) (state : Text) :
    st'.Grants .any state ↔ st.Grants .any state := by
  simp [Grants, h.ofState]

/-- A denial is lifted exactly in the covered states that are closed by own records. -/
theorem denies_iff (h : st.AllowsOwn st' covered) (state : Text) :
    st'.Denies .any state ↔
      st.Denies .any state ∧ ¬(covered state ∧ st.ClosedByOwn state) := by
  unfold Denies
  rw [h.grants_iff, h.ofState, h.denied]
  constructor
  · rintro ⟨ungranted, reason⟩
    refine ⟨⟨ungranted, ?_⟩, ?_⟩
    · rcases reason with hany | ⟨hown, -⟩ | hdeleted
      · exact Or.inl hany
      · exact Or.inr (Or.inl hown)
      · exact Or.inr (Or.inr hdeleted)
    · rintro ⟨hcovered, closed⟩
      rcases reason with hany | ⟨-, uncovered⟩ | hdeleted
      · rw [closed.silent] at hany
        cases hany
      · exact uncovered hcovered
      · exact closed.kept hdeleted
  · rintro ⟨⟨ungranted, reason⟩, standing⟩
    refine ⟨ungranted, ?_⟩
    rcases reason with hany | hown | hdeleted
    · exact Or.inl hany
    · by_cases hdeleted : state = deletedState
      · exact Or.inr (Or.inr hdeleted)
      · rcases hany : st.ofState state .any with _ | _ | _
        · -- nothing but the denial for own records closes the state
          have uncovered : ¬covered state := fun hcovered =>
            standing ⟨hcovered, hany, hown, hdeleted⟩
          exact Or.inr (Or.inl ⟨hown, uncovered⟩)
        · exact Or.inl rfl
        · exact absurd (Or.inl hany) ungranted
    · exact Or.inr (Or.inr hdeleted)

/-- The first rule about an action opens nothing by being about own records. -/
theorem closed_of_fresh (h : st.AllowsOwn st' covered) (unrefined : st.refined = false)
    (closed : st.decision .any states = false) : st'.decision .any states = false := by
  rw [decision_of_not_refined unrefined] at closed
  cases refined : st'.refined with
  | false => rw [decision_of_not_refined refined, h.base_eq, closed]
  | true =>
      obtain ⟨noScope, noState⟩ := h.fresh unrefined refined
      have last : st'.last .any = none := by rw [h.last_eq, last_any, noScope]
      have ungranted : ∀ state, ¬st'.Grants .any state := by
        intro state
        rw [h.grants_iff]
        simp [Grants, noState]
      rw [Bool.eq_false_iff]
      intro allowed
      rcases ((decision_eq_true_iff refined _).mp allowed).decided with
        hlast | ⟨-, hbase | ⟨state, -, grants⟩⟩
      · rw [last] at hlast
        cases hlast
      · rw [h.base_eq, closed] at hbase
        cases hbase
      · exact ungranted state grants

/-- If no denial is lifted, the decision is the same. -/
theorem decision_of_standing (h : st.AllowsOwn st' covered) (refined : st.refined = true)
    (standing : ∀ state ∈ states, ¬(covered state ∧ st.ClosedByOwn state)) :
    st'.decision .any states = st.decision .any states := by
  refine decision_congr ((h.refined refined).trans refined.symm) h.last_eq (h.base_eq states)
    ?_ ?_
  · simp only [h.denies_iff]
    constructor
    · rintro ⟨state, hstate, denies, -⟩
      exact ⟨state, hstate, denies⟩
    · rintro ⟨state, hstate, denies⟩
      exact ⟨state, hstate, denies, standing state hstate⟩
  · simp only [h.grants_iff]

/-- If a denial is lifted, the decision is the one about the other states. -/
theorem decision_of_lifted (h : st.AllowsOwn st' covered) (refined : st.refined = true)
    {state : Text} (hcovered : covered state) (closed : st.ClosedByOwn state) :
    st'.decision .any states = st.decision .any (states.filter (· ≠ state)) := by
  have mem_others (other : Text) :
      other ∈ states.filter (· ≠ state) ↔ other ∈ states ∧ other ≠ state := by
    rw [List.mem_filter, decide_eq_true_iff]
  have ungranted : ¬st.Grants .any state := by simp [Grants, closed.silent]
  -- the lifted state is not the deleted one, so leaving it out keeps the base
  have base : st.base (states.filter (· ≠ state)) = st.base states := by
    simp only [base, mem_others, closed.kept.symm, ne_eq, not_false_eq_true, and_true]
  refine decision_congr ((h.refined refined).trans refined.symm) h.last_eq
    ((h.base_eq states).trans base.symm) ?_ ?_
  · constructor
    · rintro ⟨other, hother, denies⟩
      obtain ⟨denied, unlifted⟩ := (h.denies_iff other).mp denies
      have hne : other ≠ state := by
        rintro rfl
        exact unlifted ⟨hcovered, closed⟩
      exact ⟨other, (mem_others other).mpr ⟨hother, hne⟩, denied⟩
    · rintro ⟨other, hother, denied⟩
      obtain ⟨hmem, hne⟩ := (mem_others other).mp hother
      refine ⟨other, hmem, (h.denies_iff other).mpr ⟨denied, ?_⟩⟩
      rintro ⟨hcovered', -⟩
      exact hne (h.covered_inj other state hcovered' hcovered)
  · constructor
    · rintro ⟨other, hother, grants⟩
      have granted := (h.grants_iff other).mp grants
      have hne : other ≠ state := by
        rintro rfl
        exact ungranted granted
      exact ⟨other, (mem_others other).mpr ⟨hother, hne⟩, granted⟩
    · rintro ⟨other, hother, granted⟩
      exact ⟨other, ((mem_others other).mp hother).1, (h.grants_iff other).mpr granted⟩

/-- A denied request stays denied unless a denial is lifted that alone was in its way. -/
theorem closed_iff (h : st.AllowsOwn st' covered) (closed : st.decision .any states = false) :
    st'.decision .any states = false ↔
      ¬∃ state ∈ states, covered state ∧ st.ClosedByOwn state ∧
        st.decision .any (states.filter (· ≠ state)) = true := by
  cases refined : st.refined with
  | false =>
      -- no denial can be lifted where there were no rules before
      refine ⟨?_, fun _ => h.closed_of_fresh refined closed⟩
      rintro - ⟨state, -, hcovered, byOwn, -⟩
      have noState := (h.fresh refined (h.refined_of_covered state hcovered)).2
      have denied := byOwn.denied
      rw [noState] at denied
      cases denied
  | true =>
      by_cases lifted : ∃ state ∈ states, covered state ∧ st.ClosedByOwn state
      · obtain ⟨state, hstate, hcovered, byOwn⟩ := lifted
        rw [h.decision_of_lifted refined hcovered byOwn, ← Bool.not_eq_true]
        -- a rule covers one state, so any other lifted state is this one
        refine not_congr ⟨fun allowed => ⟨state, hstate, hcovered, byOwn, allowed⟩, ?_⟩
        rintro ⟨other, -, hcovered', -, allowed⟩
        rwa [h.covered_inj state other hcovered hcovered']
      · have standing : ∀ state ∈ states, ¬(covered state ∧ st.ClosedByOwn state) :=
          fun state hstate found => lifted ⟨state, hstate, found⟩
        rw [h.decision_of_standing refined standing]
        refine ⟨?_, fun _ => closed⟩
        rintro - ⟨state, hstate, hcovered, byOwn, -⟩
        exact standing state hstate ⟨hcovered, byOwn⟩

end AllowsOwn

end ModelStance

namespace Rulebook

variable (roles : List Text) (model action : Text)

/-- What is said about an action as a whole is kept by a rule that targets neither the models nor
the model, nor creation if that is the action. -/
theorem general_stance_add (book next : Rulebook) (rule : Rule) (added : book.add rule = .ok next)
    (untargeted : ∀ address, address = .models ∨ address = .model model ∨
      address = .creation model ∧ action = createAction → ¬rule.Targets address) :
    (next.stance roles model action).general = (book.stance roles model action).general := by
  have kept (address : Address) (h : address = .models ∨ address = .model model ∨
      address = .creation model ∧ action = createAction) :
      next.opinion roles address = book.opinion roles address :=
    opinion_add_of_not_targets book next rule added roles address (untargeted address h)
  have whole : ((next.modelSection.action? model action).bind ActionPage.allow).bind
      (Allows.opinion roles) =
        ((book.modelSection.action? model action).bind ActionPage.allow).bind
          (Allows.opinion roles) := by
    by_cases hcreate : action = createAction
    · have creation := kept (.creation model) (Or.inr (Or.inr ⟨rfl, hcreate⟩))
      rw [hcreate]
      rwa [opinion_eq_bind, opinion_eq_bind] at creation
    · rw [allow_action?_add book next rule added model action hcreate]
  have ofModel := kept (.model model) (Or.inr (Or.inl rfl))
  simp only [stance, whole, ofModel, kept .models (Or.inl rfl)]

/-- What an allowance for own records does to the stance. -/
theorem stance_add_own (book next : Rulebook) (rule : Rule) (added : book.add rule = .ok next)
    (own : rule.IsOwn) (allow : rule.allow = true) :
    (book.stance roles model action).AllowsOwn (next.stance roles model action) fun state =>
      rule.Targets (.state model action state .own) ∧ rule.IsFor roles := by
  obtain ⟨addresses, accepted, -⟩ := (add_eq_ok_iff _ _ _).mp added
  have untargeted (address : Address) (h : address.scope? ≠ some .own) :
      ¬rule.Targets address := fun targets => h (own.scope?_of_targets targets)
  have kept (address : Address) (h : address.scope? ≠ some .own) :
      next.opinion roles address = book.opinion roles address :=
    opinion_add_of_not_targets book next rule added roles address (untargeted address h)
  have more := asksMore_stance_add roles model action book next rule added
  refine
    { general := ?_, ofScope := ?_, ofState := ?_, denied := ?_, covered_inj := ?_,
      refined_of_covered := ?_, refined := ?_, fresh := ?_ }
  · refine general_stance_add roles model action book next rule added fun address h => ?_
    obtain rfl | rfl | ⟨rfl, -⟩ := h <;> exact untargeted _ nofun
  · exact kept (.action model action .any) (by simp [Address.scope?])
  · intro state
    exact kept (.state model action state .any) (by simp [Address.scope?])
  · intro state
    exact opinion_add_eq_false_iff book next rule added allow roles _
  · rintro state other ⟨targets, -⟩ ⟨targets', -⟩
    exact Rule.state_inj_of_targets targets targets'
  · rintro state ⟨targets, -⟩
    rw [refined_stance_iff, isSome_action?_add book next rule added]
    exact ⟨rule.ne_createAction_of_targets addresses accepted targets,
      Or.inr (Rule.concerns_of_targets targets rfl)⟩
  · exact more.refined
  · intro unrefined refined
    have silent := more.fresh unrefined refined
    exact ⟨silent.ofScope .any, silent.ofState⟩

/-- **Allowing own records.** Putting in a rule that allows own records leaves a denied
inquiry about any records denied, unless the rule is about a state that was closed by a
denial for own records and that alone kept the inquiry from being allowed. -/
theorem answer_allow_own_iff (values : List Value) (value : Value) (rule : Rule)
    (read : Rule.parse value = .ok rule)
    (accepted : (enactAll {} (values ++ [value])).fault = none) (own : rule.IsOwn)
    (allow : rule.allow = true) (names : OwnerNames) (trail : Trail) (isOpen : trail.IsOpen)
    (roles : List Text) (q : ModelInquiry) (any : q.scopeFor names = .any)
    (denied : (enactAll {} values).book.answer names trail roles q = .ok false) :
    (enactAll {} (values ++ [value])).book.answer names trail roles q = .ok false ↔
      ¬∃ state ∈ q.states,
        (rule.Targets (.state q.model q.action state .own) ∧ rule.IsFor roles) ∧
          ((enactAll {} values).book.stance roles q.model q.action).ClosedByOwn state ∧
          (enactAll {} values).book.answer names trail roles
            { q with states := q.states.filter (· ≠ state) } = .ok true := by
  have added := add_of_enactAll_append {} values value accepted rule read
  have law := stance_add_own roles q.model q.action _ _ rule added own allow
  simp only [answer_eq_stance roles names trail isOpen, ModelInquiry.scopeFor_withStates, any,
    Except.ok.injEq] at denied ⊢
  exact law.closed_iff denied

/-- Where nothing is allowed in general, owners may be allowed to read their drafts. -/
theorem answer_allow_own_iff_draft :
    let values := [Value.texts ["all", "model:0"],
      Value.texts ["all", "model:post:read:draft:own:0"]]
    let value := Value.texts ["user", "model:post:read:draft:own:1"]
    let q : ModelInquiry :=
      { model := "post", action := "read", states := ["draft"], scope := some .any }
    (enactAll {} (values ++ [value])).fault = none ∧ Trail.off.IsOpen ∧ q.scopeFor {} = .any ∧
      (enactAll {} values).book.answer {} .off ["user"] q = .ok false ∧
      (enactAll {} (values ++ [value])).book.answer {} .off ["user"] q = .ok false := by
  intro values value q
  let rule : Rule :=
    { roles := ["user"], resource := .model, clauses := ["post", "read", "draft", "own"],
      allow := true }
  have own : rule.IsOwn := ⟨"post", "read", Or.inr ⟨"draft", rfl, rfl⟩⟩
  have law := answer_allow_own_iff values value rule rfl rfl own rfl {} .off rfl ["user"] q rfl rfl
  refine ⟨rfl, rfl, rfl, rfl, law.mpr ?_⟩
  rintro ⟨state, hstate, -, -, allowed⟩
  have hdraft : state = "draft" := List.mem_singleton.mp hstate
  subst hdraft
  have denied : (enactAll {} values).book.answer {} .off ["user"] { q with states := [] } =
      .ok false := rfl
  have alone : q.states.filter (· ≠ ("draft" : Text)) = [] := by decide
  rw [alone, denied] at allowed
  cases allowed

/-- Allowing users to read their drafts opens the drafts of others. -/
theorem answer_opened_draft :
    let values := [Value.texts ["all", "model:post:read:draft:own:0"]]
    let value := Value.texts ["user", "model:post:read:draft:own:1"]
    let q : ModelInquiry :=
      { model := "post", action := "read", states := ["draft"], scope := some .any }
    (enactAll {} values).book.answer {} .off ["user"] q = .ok false ∧
      (enactAll {} (values ++ [value])).fault = none ∧
      (enactAll {} (values ++ [value])).book.answer {} .off ["user"] q = .ok true :=
  ⟨rfl, rfl, rfl⟩

end Rulebook

end RoleAccess
