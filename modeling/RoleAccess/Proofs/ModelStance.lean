import RoleAccess.Rule.Basic
set_option autoImplicit false

/-! # The stance of the rules on a model request

What the rules have to say to some roles about one action on the records of a model is
summed up in a `ModelStance`. From it the decision about a record in some states is read off
without an order among the states: a state grants, denies or leaves the decision, a denial
by any state is final, and otherwise a grant by any state stands for all of them, until the
action's own rules for the two scopes are asked.
-/

namespace RoleAccess

/-- What is said to some roles about one action on the records of a model. -/
structure ModelStance where
  /-- What is said about the action without regard to scopes and states: by the action as a
  whole, else by the model, else by all models. -/
  general : Option Bool
  /-- There are scopes and states to ask about: the action is not creation, and there are
  rules about it. -/
  refined : Bool
  /-- What the action's rules for a scope say. -/
  ofScope : Scope → Option Bool
  /-- What the action's rules for a state and a scope say. -/
  ofState : Text → Scope → Option Bool

namespace ModelStance

variable (st : ModelStance) (scope : Scope)

/-- The decision that stands if scopes and states say nothing. -/
def base (states : List Text) : Bool := st.general.getD (decide (deletedState ∉ states))

/-- A state grants: it is allowed for any record, or for an own one if the record is. -/
def Grants (state : Text) : Prop :=
  st.ofState state .any = some true ∨ scope = .own ∧ st.ofState state .own = some true

/-- A state denies: it does not grant, and it is denied for either kind of records, or it is
the deleted state. -/
def Denies (state : Text) : Prop :=
  ¬st.Grants scope state ∧
    (st.ofState state .any = some false ∨ st.ofState state .own = some false ∨
      state = deletedState)

/-- What the action's rules for the scopes say at last: an allowance for any record first,
then, for an own record, what is said about own records. -/
def last : Option Bool :=
  if st.ofScope .any = some true then some true
  else if scope = .own then (st.ofScope .own).or (st.ofScope .any)
  else st.ofScope .any

instance (state : Text) : Decidable (st.Grants scope state) :=
  inferInstanceAs (Decidable (_ ∨ _))

instance (state : Text) : Decidable (st.Denies scope state) :=
  inferInstanceAs (Decidable (_ ∧ _))

/-- The decision after the states: nothing if one of them denies, allowance if one of them
grants, else the decision so far. -/
def afterStates (states : List Text) (sofar : Bool) : Option Bool :=
  if ∃ state ∈ states, st.Denies scope state then none
  else some (sofar || decide (∃ state ∈ states, st.Grants scope state))

/-- The decision that the states and the scopes make out of the decision so far. -/
def decisionFrom (states : List Text) (sofar : Bool) : Bool :=
  if st.refined then
    match st.afterStates scope states sofar with
    | none => false
    | some sofar => (st.last scope).getD sofar
  else sofar

/-- The decision about a record in some states. -/
def decision (states : List Text) : Bool :=
  st.decisionFrom scope states (st.base states)

/-! ## When a request is allowed -/

/-- Nothing in the way of a request, and something for it. -/
structure Admits (states : List Text) : Prop where
  undenied : ∀ state ∈ states, ¬st.Denies scope state
  decided : st.last scope = some true ∨
    st.last scope = none ∧
      (st.base states = true ∨ ∃ state ∈ states, st.Grants scope state)

variable {st scope}

theorem decision_of_not_refined (h : st.refined = false) (states : List Text) :
    st.decision scope states = st.base states := by
  simp [decision, decisionFrom, h]

theorem decision_eq_true_iff (h : st.refined = true) (states : List Text) :
    st.decision scope states = true ↔ st.Admits scope states := by
  unfold decision decisionFrom afterStates
  rw [if_pos h]
  by_cases hdeny : ∃ state ∈ states, st.Denies scope state
  · rw [if_pos hdeny]
    obtain ⟨state, hstate, denied⟩ := hdeny
    simp only [Bool.false_eq_true, false_iff]
    exact fun admits => admits.undenied state hstate denied
  · rw [if_neg hdeny]
    have undenied : ∀ state ∈ states, ¬st.Denies scope state :=
      fun state hstate denied => hdeny ⟨state, hstate, denied⟩
    cases hlast : st.last scope with
    | some b =>
        simp only [Option.getD_some]
        constructor
        · rintro rfl
          exact ⟨undenied, Or.inl hlast⟩
        · rintro ⟨-, h | ⟨h, -⟩⟩
          · rw [hlast] at h
            exact Option.some.inj h
          · rw [hlast] at h
            cases h
    | none =>
        simp only [Option.getD_none, Bool.or_eq_true, decide_eq_true_eq]
        constructor
        · intro h
          exact ⟨undenied, Or.inr ⟨hlast, h⟩⟩
        · rintro ⟨-, h | ⟨-, h⟩⟩
          · rw [hlast] at h
            cases h
          · exact h

/-- Two stances decide the same about two lists of states if they agree on what matters. -/
theorem decision_congr {st st' : ModelStance} {states states' : List Text}
    (refined : st'.refined = st.refined) (last : st'.last scope = st.last scope)
    (base : st'.base states' = st.base states)
    (denies : (∃ state ∈ states', st'.Denies scope state) ↔
      ∃ state ∈ states, st.Denies scope state)
    (grants : (∃ state ∈ states', st'.Grants scope state) ↔
      ∃ state ∈ states, st.Grants scope state) :
    st'.decision scope states' = st.decision scope states := by
  simp only [decision, decisionFrom, afterStates, refined, last, base, denies, grants]

/-- What is said about own records does not matter for other ones. -/
theorem last_any (st : ModelStance) : st.last .any = st.ofScope .any := by
  rcases h : st.ofScope .any with _ | _ | _ <;> simp [last, h]

/-! ## The base decision -/

theorem base_eq_true_iff (states : List Text) :
    st.base states = true ↔
      st.general = some true ∨ st.general = none ∧ deletedState ∉ states := by
  unfold base
  rcases st.general with _ | _ | _ <;> simp

/-- The deleted state is never left open. -/
theorem grants_deletedState (undenied : ¬st.Denies scope deletedState) :
    st.Grants scope deletedState := by
  by_cases h : st.Grants scope deletedState
  · exact h
  · exact absurd ⟨h, Or.inr (Or.inr rfl)⟩ undenied

end ModelStance

end RoleAccess
