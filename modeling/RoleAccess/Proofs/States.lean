import RoleAccess.Proofs.ModelDecision
set_option autoImplicit false

/-! # Decisions about records in several states

A record that is in several states may be accessed if it may be in each of them alone, but
not only then: a grant for one state also covers a state that nothing is said about and that
a general denial would keep closed. `ModelStance.GrantSpills` is this situation; it is the only
one in which the states do not answer one by one.
-/

namespace RoleAccess

namespace ModelStance

/-- A grant for one of the states spills over to another one that on its own is denied. -/
structure GrantSpills (st : ModelStance) (scope : Scope) (states : List Text) : Prop where
  refined : st.refined = true
  /-- What is said in general is a denial. -/
  closed : st.general = some false
  /-- The action's own rules for the scopes leave the decision as it is. -/
  unsettled : st.last scope = none
  undenied : ∀ state ∈ states, ¬st.Denies scope state
  granting : ∃ state ∈ states, st.Grants scope state
  ungranted : ∃ state ∈ states, ¬st.Grants scope state

variable {st : ModelStance} {scope : Scope} {states : List Text}

theorem base_singleton_of_base {state : Text} (hstate : state ∈ states)
    (h : st.base states = true) : st.base [state] = true := by
  rcases (base_eq_true_iff states).mp h with hgeneral | ⟨hgeneral, hdeleted⟩
  · exact (base_eq_true_iff _).mpr (Or.inl hgeneral)
  · refine (base_eq_true_iff _).mpr (Or.inr ⟨hgeneral, ?_⟩)
    rintro hmem
    rw [List.mem_singleton.mp hmem] at hdeleted
    exact hdeleted hstate

theorem base_of_base_singletons (some : states ≠ [])
    (h : ∀ state ∈ states, st.base [state] = true) : st.base states = true := by
  obtain ⟨first, hfirst⟩ := List.exists_mem_of_ne_nil states some
  rcases (base_eq_true_iff _).mp (h first hfirst) with hgeneral | ⟨hgeneral, -⟩
  · exact (base_eq_true_iff _).mpr (Or.inl hgeneral)
  · refine (base_eq_true_iff _).mpr (Or.inr ⟨hgeneral, fun hdeleted => ?_⟩)
    rcases (base_eq_true_iff _).mp (h deletedState hdeleted) with h' | ⟨-, h'⟩
    · rw [hgeneral] at h'
      cases h'
    · exact h' (List.mem_singleton.mpr rfl)

/-- If each state alone is allowed, so are all of them together. -/
theorem decision_of_singletons (some : states ≠ [])
    (h : ∀ state ∈ states, st.decision scope [state] = true) :
    st.decision scope states = true := by
  cases hrefined : st.refined with
  | false =>
      simp only [decision_of_not_refined hrefined] at h ⊢
      exact base_of_base_singletons some h
  | true =>
      have admits : ∀ state ∈ states, st.Admits scope [state] :=
        fun state hstate => (decision_eq_true_iff hrefined _).mp (h state hstate)
      refine (decision_eq_true_iff hrefined states).mpr ⟨?_, ?_⟩
      · intro state hstate
        exact (admits state hstate).undenied state (List.mem_singleton.mpr rfl)
      · obtain ⟨first, hfirst⟩ := List.exists_mem_of_ne_nil states some
        rcases (admits first hfirst).decided with hlast | ⟨hlast, -⟩
        · exact Or.inl hlast
        · refine Or.inr ⟨hlast, ?_⟩
          -- without a grant, each state alone can only be allowed by the base
          by_cases hgrant : ∃ state ∈ states, st.Grants scope state
          · exact Or.inr hgrant
          · refine Or.inl (base_of_base_singletons some fun state hstate => ?_)
            rcases (admits state hstate).decided with h' | ⟨-, hbase | ⟨other, hother, hgr⟩⟩
            · rw [hlast] at h'
              cases h'
            · exact hbase
            · rw [List.mem_singleton.mp hother] at hgr
              exact absurd ⟨state, hstate, hgr⟩ hgrant

/-- If all states together are allowed, so is each of them, unless a grant spills. -/
theorem decision_singleton_of_not_spills (kept : ¬st.GrantSpills scope states)
    (h : st.decision scope states = true) {state : Text} (hstate : state ∈ states) :
    st.decision scope [state] = true := by
  cases hrefined : st.refined with
  | false =>
      rw [decision_of_not_refined hrefined] at h ⊢
      exact base_singleton_of_base hstate h
  | true =>
      obtain ⟨undenied, decided⟩ := (decision_eq_true_iff hrefined _).mp h
      refine (decision_eq_true_iff hrefined _).mpr ⟨?_, ?_⟩
      · intro other hother
        rw [List.mem_singleton.mp hother]
        exact undenied state hstate
      · rcases decided with hlast | ⟨hlast, hbase | hgrant⟩
        · exact Or.inl hlast
        · exact Or.inr ⟨hlast, Or.inl (base_singleton_of_base hstate hbase)⟩
        · refine Or.inr ⟨hlast, ?_⟩
          -- a state without a grant of its own has only the base to rely on
          by_cases hself : st.Grants scope state
          · exact Or.inr ⟨state, List.mem_singleton.mpr rfl, hself⟩
          · refine Or.inl ((base_eq_true_iff _).mpr ?_)
            rcases hgeneral : st.general with _ | _ | _
            · refine Or.inr ⟨rfl, fun hmem => hself ?_⟩
              have hdeleted := List.mem_singleton.mp hmem
              rw [← hdeleted] at hstate ⊢
              exact grants_deletedState (undenied _ hstate)
            · exact absurd ⟨hrefined, hgeneral, hlast, undenied, hgrant, state, hstate, hself⟩ kept
            · exact Or.inl rfl

/-- Where a grant spills, the states together are allowed. -/
theorem GrantSpills.decision_eq_true (h : st.GrantSpills scope states) :
    st.decision scope states = true :=
  (decision_eq_true_iff h.refined _).mpr
    ⟨h.undenied, Or.inr ⟨h.unsettled, Or.inr h.granting⟩⟩

/-- States that do not grant are closed where a grant spills. -/
theorem GrantSpills.decision_eq_false (h : st.GrantSpills scope states) {others : List Text}
    (ungranted : ∀ state ∈ others, ¬st.Grants scope state) :
    st.decision scope others = false := by
  rw [Bool.eq_false_iff]
  intro allowed
  obtain ⟨-, decided⟩ := (decision_eq_true_iff h.refined _).mp allowed
  rw [h.unsettled] at decided
  rcases decided with h' | ⟨-, hbase | ⟨state, hstate, hgrant⟩⟩
  · cases h'
  · rw [base_eq_true_iff, h.closed] at hbase
    rcases hbase with h' | ⟨h', -⟩ <;> cases h'
  · exact ungranted state hstate hgrant

/-- The states answer one by one exactly if no grant spills. -/
theorem decision_singletons_iff (some : states ≠ []) :
    (st.decision scope states = true ↔
      ∀ state ∈ states, st.decision scope [state] = true) ↔
        ¬st.GrantSpills scope states := by
  constructor
  · intro law spills
    obtain ⟨state, hstate, hungranted⟩ := spills.ungranted
    have closed : st.decision scope [state] = false := by
      refine spills.decision_eq_false fun other hother => ?_
      rw [List.mem_singleton.mp hother]
      exact hungranted
    rw [law.mp spills.decision_eq_true state hstate] at closed
    cases closed
  · intro kept
    exact ⟨fun h _ hstate => decision_singleton_of_not_spills kept h hstate,
      decision_of_singletons some⟩

/-- A further state opens a closed record exactly if its own grant spills. -/
theorem decision_cons_opens_iff (some : states ≠ []) (state : Text) :
    (st.decision scope (state :: states) = true ∧ st.decision scope states = false) ↔
      st.GrantSpills scope (state :: states) ∧
        ∀ other ∈ states, ¬st.Grants scope other := by
  constructor
  · rintro ⟨opened, closed⟩
    have spills : st.GrantSpills scope (state :: states) := by
      by_cases spills : st.GrantSpills scope (state :: states)
      · exact spills
      · have alone : ∀ other ∈ states, st.decision scope [other] = true := fun other hother =>
          decision_singleton_of_not_spills spills opened (List.mem_cons_of_mem state hother)
        rw [decision_of_singletons some alone] at closed
        cases closed
    refine ⟨spills, fun other hother hgrant => ?_⟩
    have allowed : st.decision scope states = true :=
      (decision_eq_true_iff spills.refined _).mpr
        ⟨fun s hs => spills.undenied s (List.mem_cons_of_mem state hs),
          Or.inr ⟨spills.unsettled, Or.inr ⟨other, hother, hgrant⟩⟩⟩
    rw [allowed] at closed
    cases closed
  · rintro ⟨spills, ungranted⟩
    exact ⟨spills.decision_eq_true, spills.decision_eq_false ungranted⟩

end ModelStance

namespace Rulebook

/-- **One answer for several states.** An inquiry about several states is allowed if and only
if it is for each of them alone, exactly if no grant spills; and a further state opens a
closed record exactly if its grant spills over to the states before. -/
theorem answer_states_iff (book : Rulebook) (names : OwnerNames) (trail : Trail)
    (isOpen : trail.IsOpen) (roles : List Text) (q : ModelInquiry) (some : q.states ≠ []) :
    let st := book.stance roles q.model q.action
    ((book.answer names trail roles q = .ok true ↔
        ∀ state ∈ q.states,
          book.answer names trail roles { q with states := [state] } = .ok true) ↔
      ¬st.GrantSpills (q.scopeFor names) q.states) ∧
    ∀ state,
      (book.answer names trail roles { q with states := state :: q.states } = .ok true ∧
          book.answer names trail roles q = .ok false) ↔
        st.GrantSpills (q.scopeFor names) (state :: q.states) ∧
          ∀ other ∈ q.states, ¬st.Grants (q.scopeFor names) other := by
  simp only [answer_eq_stance roles names trail isOpen, ModelInquiry.scopeFor_withStates,
    Except.ok.injEq]
  exact ⟨ModelStance.decision_singletons_iff some, ModelStance.decision_cons_opens_iff some⟩

/-- A draft that may be read and an archived post that may not are not read together. -/
theorem answer_states_iff_draft_archived :
    let book := (enactAll {} [Value.texts ["all", "model:post:read:archived:any:0"],
      Value.texts ["user", "model:post:read:draft:any:1"]]).book
    let q : ModelInquiry :=
      { model := "post", action := "read", states := ["draft", "archived"], scope := some .any }
    Trail.off.IsOpen ∧ q.states ≠ [] ∧
      (book.answer {} .off ["user"] q = .ok true ↔
        ∀ state ∈ q.states, book.answer {} .off ["user"] { q with states := [state] } = .ok true) ∧
      book.answer {} .off ["user"] q = .ok false := by
  intro book q
  have law := answer_states_iff book {} .off rfl ["user"] q (by simp [q])
  refine ⟨rfl, by simp [q], law.1.mpr ?_, rfl⟩
  intro spills
  exact absurd spills.closed (by decide +kernel)

/-- The grant for drafts opens a draft in review, though posts in review are closed. -/
theorem answer_draft_in_review :
    let book := (enactAll {} [Value.texts ["all", "model:0"],
      Value.texts ["user", "model:post:read:draft:any:1"]]).book
    let q (states : List Text) : ModelInquiry :=
      { model := "post", action := "read", states, scope := some .any }
    book.answer {} .off ["user"] (q ["draft"]) = .ok true ∧
      book.answer {} .off ["user"] (q ["review"]) = .ok false ∧
      book.answer {} .off ["user"] (q ["draft", "review"]) = .ok true :=
  ⟨rfl, rfl, rfl⟩

end Rulebook

end RoleAccess
