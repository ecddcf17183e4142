import RoleAccess.Proofs.ModelMeaning
set_option autoImplicit false

/-! # Deleted records

A deleted record is meant to stay closed until a rule for this very state allows it. Once
there are rules about the action, it does: the walk through the states starts the deleted
one from denial and ends there unless it is granted. But where no rule is about the action,
there are no states to walk through, and what is said about the model, or about all models,
stands for deleted records too.
-/

namespace RoleAccess

namespace ModelStance

variable {st : ModelStance} {scope : Scope} {states : List Text}

/-- Where states are asked about, a deleted record that may be accessed has been granted. -/
theorem grants_deletedState_of_decision (refined : st.refined = true)
    (deleted : deletedState ∈ states) (allowed : st.decision scope states = true) :
    st.Grants scope deletedState := by
  have admits := (decision_eq_true_iff refined states).mp allowed
  exact grants_deletedState (admits.undenied deletedState deleted)

/-- Where no states are asked about, a deleted record is open only if that is said in
general; the allowance for want of rules does not reach it. -/
theorem decision_deleted_of_not_refined (unrefined : st.refined = false)
    (deleted : deletedState ∈ states) :
    st.decision scope states = true ↔ st.general = some true := by
  rw [decision_of_not_refined unrefined, base_eq_true_iff]
  constructor
  · rintro (general | ⟨-, kept⟩)
    · exact general
    · exact absurd deleted kept
  · exact Or.inl

end ModelStance

namespace Rulebook

/-- There is a decision that allows deleted records to one of the roles: any of them or, in
the scope of own records, own ones. -/
def AllowsDeleted (book : Rulebook) (roles : List Text) (model action : Text)
    (scope : Scope) : Prop :=
  ∃ role ∈ roles,
    book.decisionAt (.state model action deletedState .any) role = some true ∨
      scope = .own ∧ book.decisionAt (.state model action deletedState .own) role = some true

instance (book : Rulebook) (roles : List Text) (model action : Text) (scope : Scope) :
    Decidable (book.AllowsDeleted roles model action scope) :=
  inferInstanceAs (Decidable (∃ role ∈ roles, _))

variable (roles : List Text) (model action : Text)

/-- The deleted state is granted by the decisions for it. -/
theorem grants_deletedState_stance_iff (book : Rulebook) (scope : Scope) :
    (book.stance roles model action).Grants scope deletedState ↔
      book.AllowsDeleted roles model action scope := by
  simp only [ModelStance.Grants, stance, opinion, levelOpinion_eq_true_iff, AllowsDeleted]
  constructor
  · rintro (⟨role, hrole, hany⟩ | ⟨hscope, role, hrole, hown⟩)
    · exact ⟨role, hrole, Or.inl hany⟩
    · exact ⟨role, hrole, Or.inr ⟨hscope, hown⟩⟩
  · rintro ⟨role, hrole, hany | ⟨hscope, hown⟩⟩
    · exact Or.inl ⟨role, hrole, hany⟩
    · exact Or.inr ⟨hscope, role, hrole, hown⟩

/-- Without rules about an action, no decision is about its deleted records. -/
theorem not_allowsDeleted_of_no_page (book : Rulebook) (scope : Scope)
    (h : book.modelSection.action? model action = none) :
    ¬book.AllowsDeleted roles model action scope := by
  rintro ⟨role, -, hany | ⟨-, hown⟩⟩
  · simp [decisionAt, allowsAt, h] at hany
  · simp [decisionAt, allowsAt, h] at hown

/-- **Deleted records.** An inquiry about a deleted record is allowed without a decision that
allows deleted records to one of the roles exactly if no rule is about the action, and the
level of the model or, if that is silent, the level of all models allows. -/
theorem answer_deleted_iff (values : List Value) (names : OwnerNames) (trail : Trail)
    (isOpen : trail.IsOpen) (roles : List Text) (q : ModelInquiry)
    (hne : q.action ≠ createAction) (deleted : deletedState ∈ q.states) :
    let made := enactAll {} values
    (made.book.answer names trail roles q = .ok true ∧
        ¬made.book.AllowsDeleted roles q.model q.action (q.scopeFor names)) ↔
      (∀ rule ∈ made.enacted, ¬rule.Concerns q.model q.action) ∧
        (lastOpinion made.enacted roles (.model q.model)).or
          (lastOpinion made.enacted roles .models) = some true := by
  intro made
  have concerned := isSome_action?_enactAll values q.model q.action
  have general : (made.book.stance roles q.model q.action).general =
      (lastOpinion made.enacted roles (.model q.model)).or
        (lastOpinion made.enacted roles .models) := by
    rw [stance_enactAll, listStance, if_neg hne, Option.none_or]
  rw [answer_eq_stance roles names trail isOpen, Except.ok.injEq, ← general]
  cases hpage : made.book.modelSection.action? q.model q.action with
  | some page =>
      -- the states are asked about, so nothing opens without a decision for the deleted one
      have refined : (made.book.stance roles q.model q.action).refined = true := by
        simp [stance, hne, hpage]
      obtain ⟨rule, hrule, about⟩ := concerned.mp (by rw [hpage, Option.isSome_some])
      constructor
      · rintro ⟨allowed, unopened⟩
        have granted := ModelStance.grants_deletedState_of_decision refined deleted allowed
        exact absurd ((grants_deletedState_stance_iff _ _ _ _ _).mp granted) unopened
      · rintro ⟨unconcerned, -⟩
        exact absurd about (unconcerned rule hrule)
  | none =>
      have unrefined : (made.book.stance roles q.model q.action).refined = false := by
        simp [stance, hpage]
      have unconcerned : ∀ rule ∈ made.enacted, ¬rule.Concerns q.model q.action := by
        intro rule hrule about
        have page := concerned.mpr ⟨rule, hrule, about⟩
        rw [hpage] at page
        cases page
      rw [ModelStance.decision_deleted_of_not_refined unrefined deleted]
      constructor
      · rintro ⟨allowed, -⟩
        exact ⟨unconcerned, allowed⟩
      · rintro ⟨-, allowed⟩
        exact ⟨allowed, not_allowsDeleted_of_no_page _ _ _ _ _ hpage⟩

/-- Users who may read all posts do not read deleted ones. -/
theorem answer_deleted_iff_open_posts :
    let made := enactAll {} [Value.texts ["user", "model:1"],
      Value.texts ["user", "model:post:read:any:1"]]
    let q : ModelInquiry :=
      { model := "post", action := "read", states := ["deleted"], scope := some .any }
    Trail.off.IsOpen ∧ q.action ≠ createAction ∧ deletedState ∈ q.states ∧
      ¬made.book.AllowsDeleted ["user"] "post" "read" .any ∧
      made.book.answer {} .off ["user"] q ≠ .ok true := by
  intro made q
  have law := answer_deleted_iff [Value.texts ["user", "model:1"],
    Value.texts ["user", "model:post:read:any:1"]] {} .off rfl ["user"] q (by decide) (by decide)
  have unopened : ¬made.book.AllowsDeleted ["user"] "post" "read" .any := by decide +kernel
  refine ⟨rfl, by decide, by decide, unopened, fun allowed => ?_⟩
  obtain ⟨unconcerned, -⟩ := law.mp ⟨allowed, unopened⟩
  let rule : Rule :=
    { roles := ["user"], resource := .model, clauses := ["post", "read", "any"], allow := true }
  exact unconcerned rule (List.mem_cons_of_mem _ List.mem_cons_self) ⟨rfl, rfl⟩

/-- A blanket allowance opens deleted posts to users as long as no rule is about reading
posts. -/
theorem answer_deleted_post :
    let blanket := Value.texts ["user", "model:1"]
    let q : ModelInquiry :=
      { model := "post", action := "read", states := ["deleted"], scope := some .any }
    (enactAll {} [blanket]).fault = none ∧
      (enactAll {} [blanket]).book.answer {} .off ["user"] q = .ok true ∧
      ¬(enactAll {} [blanket]).book.AllowsDeleted ["user"] "post" "read" .any ∧
      (enactAll {} [blanket, Value.texts ["admin", "model:post:read:any:1"]]).book.answer {} .off
        ["user"] q = .ok false :=
  ⟨rfl, rfl, by decide +kernel, rfl⟩

end Rulebook

end RoleAccess
