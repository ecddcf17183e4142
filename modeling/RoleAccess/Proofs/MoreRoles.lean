import RoleAccess.Proofs.OpinionOrder
set_option autoImplicit false

/-! # More roles never take access away

With further roles a level may come to allow where it denied or said nothing, and nothing
else about it changes: its opinion rises. An opinion that rises is one that comes later in the
order of opinions, so that whatever is read off such opinions is allowed if it was allowed
before. There is as much to ask about a model as before, since that is up to the rulebook and
not to the roles.
-/

namespace RoleAccess

/-! ## Opinions that rise -/

/-- An opinion stays as it is or becomes an allowance. -/
def Rises (before after : Option Bool) : Prop := after = before ∨ after = some true

namespace Rises

variable {before after before' after' : Option Bool}

theorem refl (opinion : Option Bool) : Rises opinion opinion := Or.inl rfl

/-- An opinion that rises comes later in the order of opinions. -/
theorem atMost (rises : Rises before after) : AtMost before after := by
  rcases rises with rfl | rfl
  · exact AtMost.refl _
  · exact ⟨fun _ => rfl, nofun⟩

/-- The first of two opinions that rise, else the second. -/
theorem or (first : Rises before after) (second : Rises before' after') :
    Rises (before.or before') (after.or after') := by
  rcases first with rfl | rfl
  · cases after with
    | none => exact second
    | some _ => exact refl _
  · exact Or.inr rfl

end Rises

/-- A level says to more roles what it says to some, unless it allows now. -/
theorem levelOpinion_rises {roles roles' : List Text} (more : roles ⊆ roles')
    (decision : Text → Option Bool) :
    Rises (levelOpinion roles decision) (levelOpinion roles' decision) := by
  by_cases given : ∃ role ∈ roles', decision role = some true
  · exact Or.inr ((levelOpinion_eq_true_iff roles' decision).mpr given)
  · have ungiven : ¬∃ role ∈ roles, decision role = some true := by
      rintro ⟨role, hrole, htrue⟩
      exact given ⟨role, more hrole, htrue⟩
    -- nobody is allowed, so that only the role everyone has counts
    refine Or.inl ?_
    rw [levelOpinion, levelOpinion, if_neg given, if_neg ungiven]

theorem Rulebook.opinion_rises (book : Rulebook) {roles roles' : List Text}
    (more : roles ⊆ roles') (address : Address) :
    Rises (book.opinion roles address) (book.opinion roles' address) :=
  levelOpinion_rises more _

theorem Allows.bind_opinion_rises (allows : Option Allows) {roles roles' : List Text}
    (more : roles ⊆ roles') :
    Rises (allows.bind (Allows.opinion roles)) (allows.bind (Allows.opinion roles')) := by
  cases allows with
  | none => exact Rises.refl none
  | some allows => exact levelOpinion_rises more _

/-! ## Stances that loosen -/

namespace ModelStance

/-- All that a stance says rises, and there is as much to ask about as before. -/
structure Loosens (st st' : ModelStance) : Prop where
  refined : st'.refined = st.refined
  general : Rises st.general st'.general
  ofScope : ∀ scope, Rises (st.ofScope scope) (st'.ofScope scope)
  ofState : ∀ state scope, Rises (st.ofState state scope) (st'.ofState state scope)

namespace Loosens

variable {st st' : ModelStance} {scope : Scope} {states : List Text}

theorem stricter (loosens : st.Loosens st') : st.Stricter st' where
  general := loosens.general.atMost
  ofScope scope := (loosens.ofScope scope).atMost
  ofState state scope := (loosens.ofState state scope).atMost

/-- A stance that loosens keeps what it allows. -/
theorem decision (loosens : st.Loosens st') (allowed : st.decision scope states = true) :
    st'.decision scope states = true :=
  loosens.stricter.decision loosens.refined allowed

theorem widest (loosens : st.Loosens st') (states : List Text) :
    Scope.width (st.widest states) ≤ Scope.width (st'.widest states) :=
  width_widest_le fun _ allowed => loosens.decision allowed

end Loosens

end ModelStance

/-! ## More roles -/

namespace Rulebook

variable (book : Rulebook) {roles roles' : List Text}

/-- The stance on an action loosens with further roles. -/
theorem stance_loosens (more : roles ⊆ roles') (model action : Text) :
    (book.stance roles model action).Loosens (book.stance roles' model action) where
  refined := rfl
  general :=
    (Allows.bind_opinion_rises _ more).or
      ((book.opinion_rises more _).or (book.opinion_rises more _))
  ofScope _ := book.opinion_rises more _
  ofState _ _ := book.opinion_rises more _

/-- What a rulebook allows to some roles it allows to other ones, and the widest scope that
these are allowed for is no narrower. -/
structure AllowsAlso (book : Rulebook) (names : OwnerNames) (trail scopeTrail : Trail)
    (roles roles' : List Text) : Prop where
  model : ∀ q, book.answer names trail roles q = .ok true →
    book.answer names trail roles' q = .ok true
  widest : ∀ q, ∃ narrow wide, book.widestAnswer names scopeTrail roles q = .ok narrow ∧
    book.widestAnswer names scopeTrail roles' q = .ok wide ∧
      Scope.width narrow ≤ Scope.width wide
  module : ∀ module method, book.moduleAnswer trail roles module method = .ok true →
    book.moduleAnswer trail roles' module method = .ok true
  route : ∀ path method, book.routeAnswer trail roles path method = .ok true →
    book.routeAnswer trail roles' path method = .ok true

/-- A rulebook answers some roles what it answers other ones. -/
structure AnswersAlike (book : Rulebook) (names : OwnerNames) (trail scopeTrail : Trail)
    (roles roles' : List Text) : Prop where
  model : ∀ q, book.answer names trail roles' q = book.answer names trail roles q
  widest : ∀ q, book.widestAnswer names scopeTrail roles' q =
    book.widestAnswer names scopeTrail roles q
  module : ∀ module method, book.moduleAnswer trail roles' module method =
    book.moduleAnswer trail roles module method
  route : ∀ path method, book.routeAnswer trail roles' path method =
    book.routeAnswer trail roles path method

theorem allowsAlso_of_subset (names : OwnerNames) (trail scopeTrail : Trail)
    (isOpen : trail.IsOpen) (takes : scopeTrail.TakesScope) (more : roles ⊆ roles') :
    book.AllowsAlso names trail scopeTrail roles roles' where
  model q allowed := by
    rw [answer_eq_stance _ names trail isOpen, Except.ok.injEq] at allowed ⊢
    exact (book.stance_loosens more q.model q.action).decision allowed
  widest q :=
    ⟨_, _, book.widestAnswer_eq_stance roles names scopeTrail takes q,
      book.widestAnswer_eq_stance roles' names scopeTrail takes q,
      (book.stance_loosens more q.model q.action).widest q.states⟩
  module module method allowed := by
    rw [moduleAnswer_eq_opinion _ _ trail isOpen, Except.ok.injEq] at allowed ⊢
    have rises : Rises (book.moduleOpinion roles module method)
        (book.moduleOpinion roles' module method) :=
      (book.opinion_rises more _).or
        ((book.opinion_rises more _).or (book.opinion_rises more _))
    exact rises.atMost.getD_eq_true id allowed
  route path method allowed := by
    rw [routeAnswer_eq_lastSaid _ _ trail isOpen, Except.ok.injEq] at allowed ⊢
    have atMost (level : Address) :
        AtMost (book.opinion roles level) (book.opinion roles' level) :=
      (book.opinion_rises more level).atMost
    exact (lastSaid_atMost atMost _).getD_eq_true id allowed

/-- Two decisions are the same if each is an allowance when the other is. -/
theorem eq_of_allowed_iff {first second : Except Failure Bool} {allow allow' : Bool}
    (decided : first = .ok allow) (decided' : second = .ok allow')
    (there : first = .ok true → second = .ok true)
    (back : second = .ok true → first = .ok true) : second = first := by
  subst decided decided'
  rw [Except.ok.injEq, Except.ok.injEq] at there back
  exact congrArg Except.ok (Bool.eq_iff_iff.mpr ⟨back, there⟩)

/-- Roles that get as much as others which get as much as they do are answered alike. -/
theorem AllowsAlso.alike {book : Rulebook} {names : OwnerNames} {trail scopeTrail : Trail}
    (isOpen : trail.IsOpen) (there : book.AllowsAlso names trail scopeTrail roles roles')
    (back : book.AllowsAlso names trail scopeTrail roles' roles) :
    book.AnswersAlike names trail scopeTrail roles roles' where
  model q :=
    eq_of_allowed_iff (answer_eq_stance roles names trail isOpen q)
      (answer_eq_stance roles' names trail isOpen q) (there.model q) (back.model q)
  widest q := by
    obtain ⟨narrow, wide, first, second, wider⟩ := there.widest q
    obtain ⟨_, _, second', first', narrower⟩ := back.widest q
    cases first.symm.trans first'
    cases second.symm.trans second'
    rw [first, second, Scope.eq_of_width (Nat.le_antisymm narrower wider)]
  module module method :=
    eq_of_allowed_iff (book.moduleAnswer_eq_opinion roles trail isOpen module method)
      (book.moduleAnswer_eq_opinion roles' trail isOpen module method)
      (there.module module method) (back.module module method)
  route path method :=
    eq_of_allowed_iff (book.routeAnswer_eq_lastSaid roles trail isOpen path method)
      (book.routeAnswer_eq_lastSaid roles' trail isOpen path method)
      (there.route path method) (back.route path method)

/-- **More roles never take access away.** What a rulebook allows to some roles it allows to
them and any others. So what it answers depends neither on the order of the roles nor on
whether one is named twice. -/
theorem answers_of_more_roles (names : OwnerNames) (trail scopeTrail : Trail)
    (isOpen : trail.IsOpen) (takes : scopeTrail.TakesScope) (more : roles ⊆ roles') :
    book.AllowsAlso names trail scopeTrail roles roles' ∧
      (roles' ⊆ roles → book.AnswersAlike names trail scopeTrail roles roles') := by
  have also := book.allowsAlso_of_subset names trail scopeTrail isOpen takes more
  refine ⟨also, fun fewer => ?_⟩
  exact also.alike isOpen (book.allowsAlso_of_subset names trail scopeTrail isOpen takes fewer)

/-- A user who becomes an editor, too, keeps the own posts and the routes, and gets the posts
of others, whichever role comes first. -/
theorem answers_of_more_roles_editor :
    let book := (enactAll {} [Value.texts ["all", "*:0"],
      Value.texts ["user", "model:post:read:own:1"],
      Value.texts ["editor", "model:post:read:any:1"],
      Value.texts ["user", "route:/posts:1"]]).book
    let scopeTrail := Trail.kept { id := .str "id", kind := .modelScope, args := [] }
    let q : ModelInquiry := { model := "post", action := "read", scope := some .own }
    let user : List Text := ["user"]
    let both : List Text := ["editor", "user", "user"]
    Trail.off.IsOpen ∧ scopeTrail.TakesScope ∧ user ⊆ both ∧
      book.widestAnswer {} scopeTrail user q = .ok (some .own) ∧
      book.answer {} .off both q = .ok true ∧
      book.routeAnswer .off both "/posts/1" "get" = .ok true ∧
      book.widestAnswer {} scopeTrail ["user", "editor"] q = .ok (some .any) := by
  intro book scopeTrail q user both
  have more : user ⊆ both := by simp [user, both]
  have grown := (answers_of_more_roles book {} .off scopeTrail rfl ⟨rfl, rfl⟩ more).1
  have alike := (answers_of_more_roles book {} .off scopeTrail rfl ⟨rfl, rfl⟩
    (show (["user", "editor"] : List Text) ⊆ both by simp [both])).2 (by simp [both])
  refine ⟨rfl, ⟨rfl, rfl⟩, more, rfl, grown.model q rfl, grown.route _ _ rfl, ?_⟩
  exact (alike.widest q).symm.trans rfl

end Rulebook

end RoleAccess
