import RoleAccess.Proofs.ModelDecision
set_option autoImplicit false

/-! # Own records and any records

Whoever may access any record may access an own one, with one exception: rules that deny an
action on own records, without regard to states, are not asked about other records. That the
action's own rules say nothing else is `ModelStance.RefusesOwn`.
-/

namespace RoleAccess

namespace ModelStance

/-! ## From any record to an own one -/

/-- The action's own rules say nothing about any records and deny own ones. -/
structure RefusesOwn (st : ModelStance) : Prop where
  refined : st.refined = true
  silent : st.ofScope .any = none
  refused : st.ofScope .own = some false

variable {st : ModelStance} {states : List Text}

theorem grants_own_of_any {state : Text} (h : st.Grants .any state) : st.Grants .own state := by
  rcases h with h | ⟨h, -⟩
  · exact Or.inl h
  · cases h

theorem denies_any_of_own {state : Text} (h : st.Denies .own state) : st.Denies .any state :=
  ⟨fun grants => h.1 (grants_own_of_any grants), h.2⟩

/-- If any record may be accessed, an own one may, unless own ones are refused apart. -/
theorem decision_own_iff (h : st.decision .any states = true) :
    st.decision .own states = true ↔ ¬st.RefusesOwn := by
  cases hrefined : st.refined with
  | false =>
      rw [decision_of_not_refined hrefined] at h ⊢
      refine ⟨fun _ refuses => ?_, fun _ => h⟩
      rw [refuses.refined] at hrefined
      cases hrefined
  | true =>
      obtain ⟨undenied, decided⟩ := (decision_eq_true_iff hrefined _).mp h
      -- an own record has fewer denials and more grants, up to the action's own rules
      have undenied_own : ∀ state ∈ states, ¬st.Denies .own state :=
        fun state hstate denies => undenied state hstate (denies_any_of_own denies)
      rw [decision_eq_true_iff hrefined]
      rw [last_any] at decided
      rcases decided with hany | ⟨hany, hopen⟩
      · constructor
        · intro _ refuses
          rw [refuses.silent] at hany
          cases hany
        · intro _
          exact ⟨undenied_own, Or.inl (by simp [last, hany])⟩
      · have last_own : st.last .own = st.ofScope .own := by simp [last, hany]
        have open_own : st.base states = true ∨ ∃ state ∈ states, st.Grants .own state := by
          rcases hopen with hbase | ⟨state, hstate, grants⟩
          · exact Or.inl hbase
          · exact Or.inr ⟨state, hstate, grants_own_of_any grants⟩
        constructor
        · rintro ⟨-, hlast⟩ refuses
          rw [last_own, refuses.refused] at hlast
          rcases hlast with h' | ⟨h', -⟩ <;> cases h'
        · intro kept
          refine ⟨undenied_own, ?_⟩
          rw [last_own]
          rcases hown : st.ofScope .own with _ | _ | _
          · exact Or.inr ⟨rfl, open_own⟩
          · exact absurd ⟨hrefined, hany, hown⟩ kept
          · exact Or.inl rfl

end ModelStance

namespace Rulebook

variable (book : Rulebook) (names : OwnerNames) (roles : List Text) (q : ModelInquiry)

/-- The widest scope is any only if any record may be accessed. -/
theorem decision_of_widestScope (trail : Trail)
    (widest : (book.widestScope names.ownership trail (Value.texts roles) q.request).2 =
      .ok (some .any)) :
    (book.stance roles q.model q.action).decision .any q.states = true := by
  have result := @result_modelDecision roles book names
    { q with recordOwner := .null, scope := some .any }
  unfold widestScope at widest
  split at widest
  · cases widest
  · next last decided =>
      have allowed := trail.result_of_settle _ true (congrArg Prod.snd decided)
      exact Except.ok.inj (result.symm.trans allowed)
  · split at widest
    · cases widest
    · cases Trail.eq_of_settleScope _ _ _ widest
    · cases Trail.eq_of_settleScope _ _ _ widest

/-- **Own records follow any records.** If a record of another owner may be accessed, or the
widest scope is any, then an own record in the same states may be accessed, unless the
action's own rules refuse own records and say nothing about other ones. -/
theorem answer_own_iff (trail : Trail) (isOpen : trail.IsOpen) (recordOwner : Value)
    (scope : Option Scope) (session : Value)
    (owned : ({ q with recordOwner, scope, session } : ModelInquiry).scopeFor names = .own) :
    let own : ModelInquiry := { q with recordOwner, scope, session }
    let st := book.stance roles q.model q.action
    (q.scopeFor names = .any → book.answer names trail roles q = .ok true →
      (book.answer names trail roles own = .ok true ↔ ¬st.RefusesOwn)) ∧
    ∀ scopeTrail,
      (book.widestScope names.ownership scopeTrail (Value.texts roles) q.request).2 =
        .ok (some .any) →
      (book.answer names trail roles own = .ok true ↔ ¬st.RefusesOwn) := by
  intro own st
  have answered : book.answer names trail roles own = .ok (st.decision .own q.states) := by
    rw [answer_eq_stance roles names trail isOpen own, owned]
  rw [answered, Except.ok.injEq]
  constructor
  · intro hscope allowed
    rw [answer_eq_stance roles names trail isOpen q, hscope] at allowed
    exact ModelStance.decision_own_iff (Except.ok.inj allowed)
  · intro scopeTrail widest
    exact ModelStance.decision_own_iff
      (decision_of_widestScope book names roles q scopeTrail widest)

/-- Posts that are open to everyone are open to their owners. -/
theorem answer_own_iff_open_post :
    let book := (enactAll {} [Value.texts ["all", "model:0"],
      Value.texts ["user", "model:post:read:any:1"],
      Value.texts ["all", "model:post:read:own:0"]]).book
    let q : ModelInquiry := { model := "post", action := "read", scope := some .any }
    let own : ModelInquiry :=
      { q with
        recordOwner := .str "a1", scope := none, session := .obj [("accountId", .str "a1")] }
    Trail.off.IsOpen ∧ own.scopeFor {} = .own ∧ q.scopeFor {} = .any ∧
      book.answer {} .off ["user"] q = .ok true ∧ book.answer {} .off ["user"] own = .ok true := by
  intro book q own
  have law := answer_own_iff book {} ["user"] q .off rfl (.str "a1") none
    (.obj [("accountId", .str "a1")]) rfl
  refine ⟨rfl, rfl, rfl, rfl, (law.1 rfl rfl).mpr fun refuses => ?_⟩
  exact absurd refuses.silent (by decide +kernel)

/-- A denial for own posts alone leaves the posts of others open. -/
theorem answer_refused_own_post :
    let book := (enactAll {} [Value.texts ["all", "model:post:read:own:0"]]).book
    let q (scope : Scope) : ModelInquiry :=
      { model := "post", action := "read", scope := some scope }
    book.answer {} .off ["user"] (q .any) = .ok true ∧
      book.answer {} .off ["user"] (q .own) = .ok false ∧
      (book.widestScope ({} : OwnerNames).ownership .off (Value.texts ["user"])
        (q .any).request).2 = .ok (some .any) :=
  ⟨rfl, rfl, rfl⟩

end Rulebook

end RoleAccess
