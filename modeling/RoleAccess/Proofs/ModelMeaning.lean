import RoleAccess.Proofs.ModelDecision
set_option autoImplicit false

/-! # The meaning of model inquiries

What a list of rules means for a model inquiry is read off the list: the last decisions at
the addresses that matter make a stance (`listStance`), and the stance decides. The rulebook
that the rules are put into has the same stance, so the decision made with it is the one the
rules mean.
-/

namespace RoleAccess

/-- The stance of a list of rules on an action. -/
def listStance (rules : List Rule) (roles : List Text) (model action : Text) :
    ModelStance where
  general :=
    (if action = createAction then lastOpinion rules roles (.creation model) else none).or
      ((lastOpinion rules roles (.model model)).or (lastOpinion rules roles .models))
  refined := decide (action ≠ createAction ∧ ∃ rule ∈ rules, rule.Concerns model action)
  ofScope scope := lastOpinion rules roles (.action model action scope)
  ofState state scope := lastOpinion rules roles (.state model action state scope)

namespace Rulebook

/-- The rulebook of a list of rules has the stance of the list. -/
theorem stance_enactAll (values : List Value) (roles : List Text) (model action : Text) :
    (enactAll {} values).book.stance roles model action =
      listStance (enactAll {} values).enacted roles model action := by
  have whole : ((((enactAll {} values).book.modelSection.action? model action).bind
      ActionPage.allow).bind (Allows.opinion roles)) =
        if action = createAction then
          lastOpinion (enactAll {} values).enacted roles (.creation model)
        else none := by
    by_cases hcreate : action = createAction
    · rw [if_pos hcreate, ← opinion_enactAll, opinion_eq_bind, hcreate]
      rfl
    · rw [if_neg hcreate, allow_action?_enactAll values model action hcreate, Option.bind_none]
  have refined : (decide (action ≠ createAction) &&
      ((enactAll {} values).book.modelSection.action? model action).isSome) =
        decide (action ≠ createAction ∧
          ∃ rule ∈ (enactAll {} values).enacted, rule.Concerns model action) := by
    rw [Bool.eq_iff_iff, Bool.and_eq_true, isSome_action?_enactAll, decide_eq_true_iff,
      decide_eq_true_iff]
  unfold stance listStance
  simp only [whole, refined, opinion_enactAll]

/-- **The meaning of a model inquiry.** If a list of rules is read without fail and none of
them is rejected, the last decisions of the rules say how an inquiry is answered. -/
theorem answer_enactAll (values : List Value) (rules : List Rule)
    (read : values.map Rule.parse = rules.map .ok)
    (accepted : (enactAll {} values).fault = none) (names : OwnerNames) (trail : Trail)
    (isOpen : trail.IsOpen) (roles : List Text) (q : ModelInquiry) :
    (enactAll {} values).book.answer names trail roles q =
      .ok ((listStance rules roles q.model q.action).decision (q.scopeFor names) q.states) := by
  have enacted : (enactAll {} values).enacted = rules := by
    have same : (enactAll {} values).enacted.map Except.ok = rules.map Except.ok :=
      (parse_enacted {} values accepted).symm.trans read
    exact List.map_inj_right (fun _ _ => Except.ok.inj) |>.mp same
  rw [answer_eq_stance roles names trail isOpen q, stance_enactAll, enacted]

/-- Nobody reads posts but the owner of a draft. -/
theorem answer_enactAll_own_draft :
    let values := [Value.texts ["all", "model:0"],
      Value.texts ["user", "model:post:read:draft:own:1"]]
    let rules : List Rule :=
      [{ roles := ["all"], resource := .model, clauses := [], allow := false },
        { roles := ["user"], resource := .model, clauses := ["post", "read", "draft", "own"],
          allow := true }]
    let trail := Trail.kept { id := .str "id", kind := .model, args := [] }
    let q : ModelInquiry :=
      { model := "post", action := "read", states := ["draft"], recordOwner := .str "a1",
        session := .obj [("accountId", .str "a1")] }
    values.map Rule.parse = rules.map .ok ∧ (enactAll {} values).fault = none ∧
      trail.IsOpen ∧ (enactAll {} values).book.answer {} trail ["user"] q = .ok true := by
  intro values rules trail q
  have read : values.map Rule.parse = rules.map .ok := rfl
  refine ⟨read, rfl, rfl, ?_⟩
  refine (answer_enactAll values rules read rfl {} trail rfl ["user"] q).trans ?_
  exact congrArg Except.ok (by decide +kernel)

end Rulebook

end RoleAccess
