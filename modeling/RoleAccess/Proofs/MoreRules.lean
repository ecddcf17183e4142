import RoleAccess.Proofs.OpinionOrder
import RoleAccess.Proofs.Batches
set_option autoImplicit false

/-! # More rules move decisions their way only

A further rule that allows something leaves everything allowed that was allowed before, and
one that denies something leaves everything denied. It writes one decision over others, so
that all opinions move its way or stay (`Rulebook.Stricter`), and it can make the first page
of an action, so that scopes and states are asked about that were not asked about before.
Asking closes deleted records, for which nothing was granted then: these are the only ones
that a rule can close by allowing something.
-/

namespace RoleAccess

namespace Rulebook

/-! ## Rulebooks in order -/

/-- What a rulebook allows at an address another one allows there, and what the other one
denies to everyone there it denies. -/
structure Stricter (book other : Rulebook) : Prop where
  allows : ∀ address role, book.decisionAt address role = some true →
    other.decisionAt address role = some true
  denies : ∀ address, other.decisionAt address allRole = some false →
    book.decisionAt address allRole = some false
  /-- Actions as a whole have no address, apart from creation. -/
  whole : ∀ model action, action ≠ createAction →
    (book.modelSection.action? model action).bind ActionPage.allow =
      (other.modelSection.action? model action).bind ActionPage.allow

namespace Stricter

variable {book other : Rulebook} (stricter : book.Stricter other) (roles : List Text)

include stricter

theorem opinion (address : Address) :
    AtMost (book.opinion roles address) (other.opinion roles address) :=
  levelOpinion_atMost (List.Subset.refl roles) (stricter.allows address) (stricter.denies address)

theorem stance (model action : Text) :
    (book.stance roles model action).Stricter (other.stance roles model action) where
  general := by
    have whole : AtMost
        (((book.modelSection.action? model action).bind ActionPage.allow).bind
          (Allows.opinion roles))
        (((other.modelSection.action? model action).bind ActionPage.allow).bind
          (Allows.opinion roles)) := by
      by_cases hcreate : action = createAction
      · subst hcreate
        have creation := stricter.opinion roles (.creation model)
        rwa [opinion_eq_bind, opinion_eq_bind] at creation
      · exact AtMost.of_eq (by rw [stricter.whole model action hcreate])
    exact whole.or ((stricter.opinion roles _).or (stricter.opinion roles _))
  ofScope _ := stricter.opinion roles _
  ofState _ _ := stricter.opinion roles _

theorem moduleAllowed (module method : Text)
    (allowed : (book.moduleOpinion roles module method).getD true = true) :
    (other.moduleOpinion roles module method).getD true = true := by
  have atMost : AtMost (book.moduleOpinion roles module method)
      (other.moduleOpinion roles module method) :=
    (stricter.opinion roles _).or ((stricter.opinion roles _).or (stricter.opinion roles _))
  exact atMost.getD_eq_true id allowed

theorem routeAllowed (levels : List Address)
    (allowed : (lastSaid (book.opinion roles) levels).getD true = true) :
    (lastSaid (other.opinion roles) levels).getD true = true :=
  (lastSaid_atMost (stricter.opinion roles) levels).getD_eq_true id allowed

end Stricter

/-! ## One more rule -/

/-- A rule that allows makes a rulebook looser. -/
theorem stricter_add_of_allow (book next : Rulebook) (rule : Rule)
    (added : book.add rule = .ok next) (allow : rule.allow = true) : book.Stricter next where
  allows address role given := by
    rw [decisionAt_add book next rule added, allow, given]
    split <;> rfl
  denies address denied := by
    rw [decisionAt_add book next rule added, allow] at denied
    split at denied
    · cases denied
    · exact denied
  whole model action hne := (allow_action?_add book next rule added model action hne).symm

/-- A rule that denies makes a rulebook stricter. -/
theorem stricter_add_of_deny (book next : Rulebook) (rule : Rule)
    (added : book.add rule = .ok next) (deny : rule.allow = false) : next.Stricter book where
  allows address role given := by
    rw [decisionAt_add book next rule added, deny] at given
    split at given
    · cases given
    · exact given
  denies address denied := by
    rw [decisionAt_add book next rule added, deny, denied]
    split <;> rfl
  whole model action hne := allow_action?_add book next rule added model action hne

/-- What a rulebook decides in one way, another one decides that way, too, and the widest
scope does not move the other way. What is allowed for deleted records is left out. -/
structure Keeps (book next : Rulebook) (names : OwnerNames) (trail scopeTrail : Trail)
    (roles : List Text) (allow : Bool) : Prop where
  model : ∀ q, (allow = true → deletedState ∉ q.states) →
    book.answer names trail roles q = .ok allow → next.answer names trail roles q = .ok allow
  widest : ∀ q, (allow = true → deletedState ∉ q.states) →
    ∃ before after, book.widestAnswer names scopeTrail roles q = .ok before ∧
      next.widestAnswer names scopeTrail roles q = .ok after ∧
        if allow then Scope.width before ≤ Scope.width after
        else Scope.width after ≤ Scope.width before
  module : ∀ module method, book.moduleAnswer trail roles module method = .ok allow →
    next.moduleAnswer trail roles module method = .ok allow
  route : ∀ path method, book.routeAnswer trail roles path method = .ok allow →
    next.routeAnswer trail roles path method = .ok allow

section Keeps

variable (book next : Rulebook) (names : OwnerNames) (trail scopeTrail : Trail)
  (isOpen : trail.IsOpen) (takes : scopeTrail.TakesScope) (roles : List Text)
  (asksMore : ∀ model action,
    (book.stance roles model action).AsksMore (next.stance roles model action))

include isOpen takes asksMore

/-- A looser rulebook keeps what is allowed. -/
theorem keeps_of_looser (looser : book.Stricter next) :
    book.Keeps next names trail scopeTrail roles true where
  model q kept allowed := by
    rw [answer_eq_stance _ names trail isOpen, Except.ok.injEq] at allowed ⊢
    exact (asksMore q.model q.action).decision_of_looser (looser.stance roles _ _) (kept rfl)
      allowed
  widest q kept := by
    refine ⟨_, _, book.widestAnswer_eq_stance roles names scopeTrail takes q,
      next.widestAnswer_eq_stance roles names scopeTrail takes q, ?_⟩
    rw [if_pos rfl]
    exact ModelStance.width_widest_le fun scope =>
      (asksMore q.model q.action).decision_of_looser (looser.stance roles _ _) (kept rfl)
  module module method allowed := by
    rw [moduleAnswer_eq_opinion _ _ trail isOpen, Except.ok.injEq] at allowed ⊢
    exact looser.moduleAllowed roles module method allowed
  route path method allowed := by
    rw [routeAnswer_eq_lastSaid _ _ trail isOpen, Except.ok.injEq] at allowed ⊢
    exact looser.routeAllowed roles _ allowed

/-- A stricter rulebook keeps what is denied. -/
theorem keeps_of_stricter (stricter : next.Stricter book) :
    book.Keeps next names trail scopeTrail roles false where
  model q _ denied := by
    rw [answer_eq_stance _ names trail isOpen, Except.ok.injEq, ← Bool.not_eq_true] at denied ⊢
    exact fun allowed => denied ((asksMore q.model q.action).decision_of_stricter
      (stricter.stance roles _ _) allowed)
  widest q _ := by
    refine ⟨_, _, book.widestAnswer_eq_stance roles names scopeTrail takes q,
      next.widestAnswer_eq_stance roles names scopeTrail takes q, ?_⟩
    rw [if_neg (by decide)]
    exact ModelStance.width_widest_le fun scope =>
      (asksMore q.model q.action).decision_of_stricter (stricter.stance roles _ _)
  module module method denied := by
    rw [moduleAnswer_eq_opinion _ _ trail isOpen, Except.ok.injEq, ← Bool.not_eq_true] at denied ⊢
    exact fun allowed => denied (stricter.moduleAllowed roles module method allowed)
  route path method denied := by
    rw [routeAnswer_eq_lastSaid _ _ trail isOpen, Except.ok.injEq, ← Bool.not_eq_true] at denied ⊢
    exact fun allowed => denied (stricter.routeAllowed roles _ allowed)

end Keeps

/-- **More rules move decisions their way only.** What some rules allow, or what they deny, is
kept by a further rule that allows or denies, with the exception of what they allow for
deleted records. -/
theorem enactAll_keeps (values : List Value) (value : Value) (rule : Rule)
    (read : Rule.parse value = .ok rule)
    (accepted : (enactAll {} (values ++ [value])).fault = none) (names : OwnerNames)
    (trail scopeTrail : Trail) (isOpen : trail.IsOpen) (takes : scopeTrail.TakesScope)
    (roles : List Text) :
    (enactAll {} values).book.Keeps (enactAll {} (values ++ [value])).book names trail scopeTrail
      roles rule.allow := by
  have added := add_of_enactAll_append {} values value accepted rule read
  have asksMore := fun model action => asksMore_stance_add roles model action _ _ rule added
  cases allow : rule.allow with
  | true =>
      exact keeps_of_looser _ _ names trail scopeTrail isOpen takes roles asksMore
        (stricter_add_of_allow _ _ rule added allow)
  | false =>
      exact keeps_of_stricter _ _ names trail scopeTrail isOpen takes roles asksMore
        (stricter_add_of_deny _ _ rule added allow)

/-- Users who read their own posts go on doing so when everyone may read any posts, and guests
who read none go on not doing so when drafts are closed. -/
theorem enactAll_keeps_posts :
    let values := [Value.texts ["all", "*:0"], Value.texts ["user", "model:post:read:own:1"],
      Value.texts ["user", "route:/posts:1"]]
    let allowance := Value.texts ["all", "model:post:read:any:1"]
    let denial := Value.texts ["all", "model:post:read:draft:any:0"]
    let scopeTrail := Trail.kept { id := .str "id", kind := .modelScope, args := [] }
    let q : ModelInquiry :=
      { model := "post", action := "read", states := ["draft"], recordOwner := .str "a1",
        session := .obj [("accountId", .str "a1")] }
    let looser := (enactAll {} (values ++ [allowance])).book
    let stricter := (enactAll {} (values ++ [denial])).book
    (enactAll {} (values ++ [allowance])).fault = none ∧
      (enactAll {} (values ++ [denial])).fault = none ∧ Trail.off.IsOpen ∧
      scopeTrail.TakesScope ∧ looser.answer {} .off ["user"] q = .ok true ∧
      looser.routeAnswer .off ["user"] "/posts/1" "get" = .ok true ∧
      stricter.answer {} .off ["guest"] q = .ok false ∧
      stricter.widestAnswer {} scopeTrail ["guest"] q = .ok none := by
  intro values allowance denial scopeTrail q looser stricter
  have takes : scopeTrail.TakesScope := ⟨rfl, rfl⟩
  have opened := enactAll_keeps values allowance
    { roles := ["all"], resource := .model, clauses := ["post", "read", "any"], allow := true }
    rfl rfl {} .off scopeTrail rfl takes ["user"]
  have closed := enactAll_keeps values denial
    { roles := ["all"], resource := .model, clauses := ["post", "read", "draft", "any"],
      allow := false }
    rfl rfl {} .off scopeTrail rfl takes ["guest"]
  have present : deletedState ∉ q.states := by decide
  refine ⟨rfl, rfl, rfl, takes, opened.model q (fun _ => present) rfl, opened.route _ _ rfl,
    closed.model q nofun rfl, ?_⟩
  -- nothing is narrower than no scope
  obtain ⟨before, after, hbefore, hafter, narrower⟩ := closed.widest q nofun
  obtain rfl : before = none := Except.ok.inj (hbefore.symm.trans rfl)
  rw [if_neg (by decide)] at narrower
  have nothing : after = none := Scope.eq_of_width (Nat.le_zero.mp narrower)
  rw [hafter, nothing]

end Rulebook

end RoleAccess
