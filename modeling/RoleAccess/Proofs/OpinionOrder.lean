import RoleAccess.Proofs.Answers
import RoleAccess.Proofs.Routes
set_option autoImplicit false

/-! # Opinions in order

Opinions are ordered: a denial comes before silence, and silence before an allowance. What is
read off opinions respects this order. For routes and modules this is so because the last
level that says something decides. For models it is so because a state, a scope and a level
can each only turn the decision the way that they turn themselves, as long as there are
scopes and states to ask about before and after (`ModelStance.Stricter.decision`). To ask
about them at all makes a difference for deleted records, which are closed unless they are
granted (`ModelStance.decision_asked_of_silent`).
-/

namespace RoleAccess

/-! ## Opinions -/

/-- An opinion comes before another one, or is the same: what it allows the other one allows,
and what the other one denies it denies. -/
structure AtMost (opinion other : Option Bool) : Prop where
  allows : opinion = some true → other = some true
  denies : other = some false → opinion = some false

namespace AtMost

variable {opinion other opinion' other' : Option Bool}

theorem refl (opinion : Option Bool) : AtMost opinion opinion := ⟨id, id⟩

theorem of_eq (same : opinion = other) : AtMost opinion other := same ▸ refl opinion

/-- The first of two opinions, else the second. -/
theorem or (first : AtMost opinion other) (second : AtMost opinion' other') :
    AtMost (opinion.or opinion') (other.or other') := by
  rcases other with _ | _ | _
  · -- the first is a denial or silence, and a denial stays in front
    rcases opinion with _ | _ | _
    · exact second
    · exact ⟨nofun, fun _ => rfl⟩
    · exact absurd (first.allows rfl) nofun
  · rw [first.denies rfl]
    exact refl _
  · exact ⟨fun _ => rfl, nofun⟩

/-- An opinion, else the decision so far. -/
theorem getD_eq_true (atMost : AtMost opinion other) {sofar sofar' : Bool}
    (start : sofar = true → sofar' = true) (allowed : opinion.getD sofar = true) :
    other.getD sofar' = true := by
  rcases other with _ | _ | _
  · rcases opinion with _ | _ | _
    · exact start allowed
    · cases allowed
    · exact absurd (atMost.allows rfl) nofun
  · rw [atMost.denies rfl] at allowed
    cases allowed
  · rfl

end AtMost

/-- A level says no less to further roles, nor with further allowances or fewer denials. -/
theorem levelOpinion_atMost {roles roles' : List Text} {decision decision' : Text → Option Bool}
    (more : roles ⊆ roles')
    (allows : ∀ role, decision role = some true → decision' role = some true)
    (denies : decision' allRole = some false → decision allRole = some false) :
    AtMost (levelOpinion roles decision) (levelOpinion roles' decision') where
  allows given := by
    obtain ⟨role, hrole, htrue⟩ := (levelOpinion_eq_true_iff _ _).mp given
    exact (levelOpinion_eq_true_iff _ _).mpr ⟨role, more hrole, allows role htrue⟩
  denies denied := by
    obtain ⟨ungiven, hall⟩ := (levelOpinion_eq_false_iff _ _).mp denied
    refine (levelOpinion_eq_false_iff _ _).mpr ⟨fun role hrole htrue => ?_, denies hall⟩
    exact ungiven role (more hrole) (allows role htrue)

/-- The last level that says something says no less if no level does. -/
theorem lastSaid_atMost {opinion opinion' : Address → Option Bool}
    (atMost : ∀ level, AtMost (opinion level) (opinion' level)) (levels : List Address) :
    AtMost (lastSaid opinion levels) (lastSaid opinion' levels) := by
  induction levels with
  | nil => exact AtMost.refl none
  | cons level rest ih =>
      rw [lastSaid_cons, lastSaid_cons]
      exact ih.or (atMost level)

/-! ## Stances -/

namespace ModelStance

variable {st st' : ModelStance} {scope : Scope} {states : List Text}

/-- All that a stance says is at most what another one says. -/
structure Stricter (st st' : ModelStance) : Prop where
  general : AtMost st.general st'.general
  ofScope : ∀ scope, AtMost (st.ofScope scope) (st'.ofScope scope)
  ofState : ∀ state scope, AtMost (st.ofState state scope) (st'.ofState state scope)

namespace Stricter

theorem grants (stricter : st.Stricter st') {state : Text} (h : st.Grants scope state) :
    st'.Grants scope state := by
  rcases h with hany | ⟨hown, h⟩
  · exact Or.inl ((stricter.ofState state .any).allows hany)
  · exact Or.inr ⟨hown, (stricter.ofState state .own).allows h⟩

theorem denies (stricter : st.Stricter st') {state : Text} (h : st'.Denies scope state) :
    st.Denies scope state := by
  obtain ⟨ungranted, denied⟩ := h
  refine ⟨fun granted => ungranted (stricter.grants granted), ?_⟩
  rcases denied with hany | hown | hdeleted
  · exact Or.inl ((stricter.ofState state .any).denies hany)
  · exact Or.inr (Or.inl ((stricter.ofState state .own).denies hown))
  · exact Or.inr (Or.inr hdeleted)

theorem last (stricter : st.Stricter st') : AtMost (st.last scope) (st'.last scope) := by
  have any := stricter.ofScope .any
  cases scope with
  | any =>
      rw [last_any, last_any]
      exact any
  | own =>
      by_cases given : st'.ofScope .any = some true
      · -- an allowance for any record is the last word
        have allowed : st'.last .own = some true := by rw [ModelStance.last, if_pos given]
        rw [allowed]
        exact ⟨fun _ => rfl, fun denied => by cases denied⟩
      · have ungiven : st.ofScope .any ≠ some true := fun h => given (any.allows h)
        have own := (stricter.ofScope .own).or any
        simpa [ModelStance.last, given, ungiven] using own

theorem base (stricter : st.Stricter st') (h : st.base states = true) : st'.base states = true :=
  stricter.general.getD_eq_true id h

/-- What a stance allows a looser one allows, if both ask about scopes and states or neither
does. -/
theorem decision (stricter : st.Stricter st') (refined : st'.refined = st.refined)
    (allowed : st.decision scope states = true) : st'.decision scope states = true := by
  cases asked : st.refined with
  | false =>
      rw [decision_of_not_refined asked] at allowed
      rw [decision_of_not_refined (refined.trans asked)]
      exact stricter.base allowed
  | true =>
      obtain ⟨undenied, decided⟩ := (decision_eq_true_iff asked states).mp allowed
      refine (decision_eq_true_iff (refined.trans asked) states).mpr ⟨?_, ?_⟩
      · exact fun state hstate denies => undenied state hstate (stricter.denies denies)
      · have last : AtMost (st.last scope) (st'.last scope) := stricter.last
        rcases decided with hlast | ⟨hlast, opened⟩
        · exact Or.inl (last.allows hlast)
        · rcases found : st'.last scope with _ | _ | _
          · refine Or.inr ⟨rfl, ?_⟩
            rcases opened with hbase | ⟨state, hstate, granted⟩
            · exact Or.inl (stricter.base hbase)
            · exact Or.inr ⟨state, hstate, stricter.grants granted⟩
          · rw [last.denies found] at hlast
            cases hlast
          · exact Or.inl rfl

end Stricter

/-! ## Asking about scopes and states -/

/-- Nothing is said about scopes and states. -/
structure IsSilent (st : ModelStance) : Prop where
  ofScope : ∀ scope, st.ofScope scope = none
  ofState : ∀ state scope, st.ofState state scope = none

/-- The stance that asks about scopes and states. -/
def asked (st : ModelStance) : ModelStance := { st with refined := true }

@[simp] theorem ofScope_asked : st.asked.ofScope = st.ofScope := rfl

@[simp] theorem ofState_asked : st.asked.ofState = st.ofState := rfl

/-- To ask where nothing is said closes deleted records, and that is all it does. -/
theorem decision_asked_of_silent (silent : st.IsSilent) (unrefined : st.refined = false) :
    st.asked.decision scope states = true ↔
      st.decision scope states = true ∧ deletedState ∉ states := by
  have ungranted (state : Text) : ¬st.asked.Grants scope state := by
    simp [Grants, silent.ofState]
  have denies (state : Text) : st.asked.Denies scope state ↔ state = deletedState := by
    simp [Denies, ungranted, silent.ofState]
  have last : st.asked.last scope = none := by
    simp [ModelStance.last, silent.ofScope]
  rw [decision_eq_true_iff rfl, decision_of_not_refined unrefined]
  constructor
  · rintro ⟨undenied, decided⟩
    refine ⟨?_, fun deleted => undenied deletedState deleted ((denies _).mpr rfl)⟩
    rcases decided with hlast | ⟨-, hbase | ⟨state, -, granted⟩⟩
    · rw [last] at hlast
      cases hlast
    · exact hbase
    · exact absurd granted (ungranted state)
  · rintro ⟨hbase, kept⟩
    refine ⟨fun state hstate denied => ?_, Or.inr ⟨last, Or.inl hbase⟩⟩
    rw [denies] at denied
    exact kept (denied ▸ hstate)

/-- There is at least as much to ask about as before, and nothing was said about what was not
asked about. -/
structure AsksMore (st st' : ModelStance) : Prop where
  refined : st.refined = true → st'.refined = true
  fresh : st.refined = false → st'.refined = true → st.IsSilent

namespace AsksMore

variable (more : st.AsksMore st')

include more

theorem unrefined_of_ne (h : st'.refined ≠ st.refined) :
    st.refined = false ∧ st'.refined = true := by
  cases hst : st.refined with
  | false => exact ⟨rfl, by simpa [hst] using h⟩
  | true => exact absurd ((more.refined hst).trans hst.symm) h

/-- A looser stance that asks more keeps what is allowed for records that are not deleted. -/
theorem decision_of_looser (looser : st.Stricter st') (kept : deletedState ∉ states)
    (allowed : st.decision scope states = true) : st'.decision scope states = true := by
  by_cases refined : st'.refined = st.refined
  · exact looser.decision refined allowed
  · obtain ⟨unrefined, refined'⟩ := more.unrefined_of_ne refined
    have silent := more.fresh unrefined refined'
    have fromAsked : st.asked.Stricter st' := ⟨looser.general, looser.ofScope, looser.ofState⟩
    have askedAllowed : st.asked.decision scope states = true :=
      (decision_asked_of_silent silent unrefined).mpr ⟨allowed, kept⟩
    exact fromAsked.decision refined' askedAllowed

/-- A stricter stance that asks more allows nothing new. -/
theorem decision_of_stricter (stricter : st'.Stricter st)
    (allowed : st'.decision scope states = true) : st.decision scope states = true := by
  by_cases refined : st.refined = st'.refined
  · exact stricter.decision refined allowed
  · obtain ⟨unrefined, refined'⟩ := more.unrefined_of_ne (Ne.symm refined)
    have silent := more.fresh unrefined refined'
    have toAsked : st'.Stricter st.asked := ⟨stricter.general, stricter.ofScope, stricter.ofState⟩
    have askedAllowed : st.asked.decision scope states = true :=
      toAsked.decision refined'.symm allowed
    exact ((decision_asked_of_silent silent unrefined).mp askedAllowed).1

end AsksMore

/-! ## The widest scope -/

/-- The widest scope is no narrower if each decision that allows stays one. -/
theorem width_widest_le
    (kept : ∀ scope, st.decision scope states = true → st'.decision scope states = true) :
    Scope.width (st.widest states) ≤ Scope.width (st'.widest states) := by
  unfold widest
  by_cases hany : st.decision .any states = true
  · exact Nat.le_of_eq (by rw [if_pos hany, if_pos (kept .any hany)])
  · rw [if_neg hany]
    by_cases hown : st.decision .own states = true
    · rw [if_pos hown]
      by_cases hany' : st'.decision .any states = true
      · rw [if_pos hany']
        decide
      · exact Nat.le_of_eq (by rw [if_neg hany', if_pos (kept .own hown)])
    · rw [if_neg hown]
      exact Nat.zero_le _

end ModelStance

/-! ## Rules make more to ask about -/

namespace Rulebook

variable (roles : List Text) (model action : Text)

theorem refined_stance_iff (book : Rulebook) :
    (book.stance roles model action).refined = true ↔
      action ≠ createAction ∧ (book.modelSection.action? model action).isSome := by
  simp [stance]

/-- Nothing is said about an action without rules about it. -/
theorem isSilent_stance (book : Rulebook) (h : book.modelSection.action? model action = none) :
    (book.stance roles model action).IsSilent := by
  constructor <;> simp [stance, opinion_eq_bind, allowsAt, h]

/-- A rule that is put in makes no less to ask about. -/
theorem asksMore_stance_add (book next : Rulebook) (rule : Rule)
    (added : book.add rule = .ok next) :
    (book.stance roles model action).AsksMore (next.stance roles model action) where
  refined := by
    simp only [refined_stance_iff, isSome_action?_add book next rule added]
    rintro ⟨hne, hpage⟩
    exact ⟨hne, Or.inl hpage⟩
  fresh unrefined refined := by
    have hne := ((refined_stance_iff roles model action next).mp refined).1
    cases hpage : book.modelSection.action? model action with
    | none => exact isSilent_stance roles model action book hpage
    | some page =>
        have refined' := (refined_stance_iff roles model action book).mpr
          ⟨hne, by rw [hpage, Option.isSome_some]⟩
        rw [unrefined] at refined'
        cases refined'

end Rulebook

end RoleAccess
