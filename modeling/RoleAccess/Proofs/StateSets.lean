import RoleAccess.Proofs.SealedRecords
set_option autoImplicit false

/-! # The states of a record form a set

A state acts on the decision in a way of its own, in which the states before it have no part:
it grants, denies or keeps it, or fails. So two lists of the same states come to the same
decision, whatever the order and however often a state is named, although the walks through
them can end at different states and make different entries.

Where some role is no text, one of the walks can fail and the other one end before that. The
two still never come to different decisions, and this is what the induction over the states
shows (`statesDecision_found`). Where all roles are texts, both come to one.
-/

namespace RoleAccess

/-! ## Computations that agree -/

namespace Trace

variable {α β : Type}

/-- Two computations agree if they come to the same where both come to something. -/
def Agrees (t t' : Trace α) : Prop :=
  ∀ a a', t.result = .ok a → t'.result = .ok a' → a = a'

namespace Agrees

protected theorem refl (t : Trace α) : t.Agrees t := by
  intro a a' result result'
  exact Except.ok.inj (result.symm.trans result')

protected theorem bind {t t' : Trace α} {f f' : α → Trace β} (first : t.Agrees t')
    (second : ∀ a, (f a).Agrees (f' a)) : (t >>= f).Agrees (t' >>= f') := by
  intro b b' result result'
  obtain ⟨a, started, ended⟩ := (result_andThen_eq_ok_iff t f b).mp result
  obtain ⟨a', started', ended'⟩ := (result_andThen_eq_ok_iff t' f' b').mp result'
  obtain rfl : a = a' := first a a' started started'
  exact second a b b' ended ended'

end Agrees

end Trace

open Trace (Agrees)

/-! ## The walk through the states -/

section Walk

variable (roles : Value) (scope : Scope) (page : ActionPage)

/-- What one state comes to, wherever the walk meets it. -/
def stateStep (state : Value) : Trace StateOutcome := do
  match ← Trace.ofUse (page.states.lookup state) with
  | none => return if state.isText deletedState then .deny else .keep
  | some pair => stateOutcome roles scope state pair

/-- The walk goes on with what its first state comes to. -/
theorem result_statesDecision_step (state : Value) (rest : List Value) (sofar : Bool) :
    (statesDecision roles scope page (state :: rest) sofar).result =
      (stateStep roles scope page state >>= fun outcome => match outcome with
        | .grant => statesDecision roles scope page rest true
        | .deny => return none
        | .keep => statesDecision roles scope page rest sofar).result := by
  unfold stateStep
  rw [statesDecision]
  cases page.states.lookup state with
  | error m => rfl
  | ok found =>
      cases found with
      | none => by_cases deleted : state.isText deletedState = true <;>
          simp [deleted, Trace.done, Trace.andThen]
      | some pair =>
          cases result : (stateOutcome roles scope state pair).result with
          | error e => simp [Trace.done, Trace.andThen, result]
          | ok outcome => cases outcome <;> simp [Trace.done, Trace.andThen, result]

/-- What a walk finds that does not fail, told by which states there are. -/
structure StatesFound (states : List Value) (sofar : Bool) (found : Option Bool) : Prop where
  denied_iff : found = none ↔
    ∃ state ∈ states, (stateStep roles scope page state).result = .ok .deny
  allowed_iff : ∀ allow, found = some allow → (allow = true ↔
    sofar = true ∨ ∃ state ∈ states, (stateStep roles scope page state).result = .ok .grant)

variable {roles scope page}

theorem StatesFound.cons_grant {state : Value} {rest : List Value} {sofar : Bool}
    {found : Option Bool}
    (granted : (stateStep roles scope page state).result = .ok .grant)
    (after : StatesFound roles scope page rest true found) :
    StatesFound roles scope page (state :: rest) sofar found where
  denied_iff := by
    rw [after.denied_iff]
    simp [granted]
  allowed_iff := by
    intro allow is_found
    have allowed : allow = true := (after.allowed_iff allow is_found).mpr (Or.inl rfl)
    simp [allowed, granted]

theorem StatesFound.cons_deny {state : Value} {rest : List Value} {sofar : Bool}
    (denied : (stateStep roles scope page state).result = .ok .deny) :
    StatesFound roles scope page (state :: rest) sofar none where
  denied_iff := by simp [denied]
  allowed_iff := nofun

theorem StatesFound.cons_keep {state : Value} {rest : List Value} {sofar : Bool}
    {found : Option Bool}
    (kept : (stateStep roles scope page state).result = .ok .keep)
    (after : StatesFound roles scope page rest sofar found) :
    StatesFound roles scope page (state :: rest) sofar found where
  denied_iff := by
    rw [after.denied_iff]
    simp [kept]
  allowed_iff := by
    intro allow is_found
    rw [after.allowed_iff allow is_found]
    simp [kept]

/-- A walk that does not fail finds what the states there are say together. -/
theorem statesDecision_found (states : List Value) (sofar : Bool) (found : Option Bool)
    (result : (statesDecision roles scope page states sofar).result = .ok found) :
    StatesFound roles scope page states sofar found := by
  induction states generalizing sofar with
  | nil =>
      obtain rfl : some sofar = found := Except.ok.inj result
      constructor <;> simp
  | cons state rest ih =>
      rw [result_statesDecision_step, Trace.bind_eq, Trace.result_andThen_eq_ok_iff] at result
      obtain ⟨outcome, step, walked⟩ := result
      -- a grant is the decision so far for the rest, and a denial ends the walk
      cases outcome with
      | grant => exact .cons_grant step (ih true walked)
      | deny =>
          obtain rfl : none = found := Except.ok.inj walked
          exact .cons_deny step
      | keep => exact .cons_keep step (ih sofar walked)

/-- What is found depends on which states there are only. -/
theorem StatesFound.eq {states states' : List Value}
    (same : ∀ state, state ∈ states ↔ state ∈ states') {sofar : Bool} {found found' : Option Bool}
    (first : StatesFound roles scope page states sofar found)
    (second : StatesFound roles scope page states' sofar found') : found = found' := by
  have denied : found = none ↔ found' = none := by
    rw [first.denied_iff, second.denied_iff]
    simp only [same]
  cases found with
  | none => exact (denied.mp rfl).symm
  | some allow =>
      cases found' with
      | none => exact denied.mpr rfl
      | some allow' =>
          have allowed : allow = true ↔ allow' = true := by
            rw [first.allowed_iff allow rfl, second.allowed_iff allow' rfl]
            simp only [same]
          rw [Bool.eq_iff_iff.mpr allowed]

end Walk

/-! ## Decisions -/

section Decisions

variable {states states' : List Value} (same : ∀ state, state ∈ states ↔ state ∈ states')
variable (roles : Value) (ownership : Ownership) (r : ModelRequest)

include same

theorem statesDecision_agrees (scope : Scope) (page : ActionPage) (sofar : Bool) :
    (statesDecision roles scope page states sofar).Agrees
      (statesDecision roles scope page states' sofar) := by
  intro found found' result result'
  have first := statesDecision_found states sofar found result
  have second := statesDecision_found states' sofar found' result'
  exact first.eq same second

theorem actionDecision_agrees (page : ActionPage) (sofar : Bool) :
    (actionDecision ownership roles r states page sofar).Agrees
      (actionDecision ownership roles r states' page sofar) := by
  unfold actionDecision
  apply Agrees.bind (.refl _)
  intro allow
  split
  · exact .refl _
  · apply Agrees.bind (.refl _)
    intro scope
    apply Agrees.bind (statesDecision_agrees same roles scope page allow)
    intro found
    exact .refl _

theorem ModelPage.decision_agrees (page : ModelPage) (sofar : Bool) :
    (page.decision ownership roles r states sofar).Agrees
      (page.decision ownership roles r states' sofar) := by
  unfold ModelPage.decision
  apply Agrees.bind (.refl _)
  intro allow
  apply Agrees.bind (.refl _)
  intro found
  cases found with
  | none => exact .refl _
  | some page => exact actionDecision_agrees same roles ownership r page allow

theorem ModelSection.decision_agrees (part : ModelSection) (sofar : Bool) :
    (part.decision ownership roles r states sofar).Agrees
      (part.decision ownership roles r states' sofar) := by
  unfold ModelSection.decision
  apply Agrees.bind (.refl _)
  intro allow
  apply Agrees.bind (.refl _)
  intro found
  cases found with
  | none => exact .refl _
  | some page => exact page.decision_agrees same roles ownership r allow

end Decisions

/-- Two decisions that come to the same and leave something on the way are answered alike. -/
theorem Trail.snd_settle_congr (trail : Trail) {t t' : Trace Bool} (allow : Bool)
    (result : t.result = .ok allow) (result' : t'.result = .ok allow) (left : t.entries ≠ [])
    (left' : t'.entries ≠ []) : (trail.settle t').2 = (trail.settle t).2 := by
  cases trail with
  | off => rw [off.snd_settle rfl, off.snd_settle rfl, result, result']
  | kept record =>
      cases state : record.complete with
      | true =>
          -- the first entry is refused already
          rw [settle_complete record state t allow result, if_neg left,
            settle_complete record state t' allow result', if_neg left']
      | false =>
          rw [settle_kept record state t allow result, settle_kept record state t' allow result']

namespace Rulebook

variable (book : Rulebook) (ownership : Ownership) (roles : Value) (r : ModelRequest)

/-- The decision about a record in some states, which starts with an entry. -/
theorem modelDecision_texts (states : List Text) :
    book.modelDecision ownership roles { r with states := Value.texts states } =
      (Trace.note (.opened (decide (deletedState ∈ states)) (!decide (deletedState ∈ states))) >>=
        fun _ => match book.models with
        | none => return !decide (deletedState ∈ states)
        | some part => part.decision ownership roles r (states.map .str)
            (!decide (deletedState ∈ states))) := by
  simp only [modelDecision, statesOf_texts, Trace.ofUse_ok, Trace.bind_eq, Trace.done,
    Trace.andThen, any_isText, List.nil_append]
  rfl

theorem entries_modelDecision_texts_ne_nil (states : List Text) :
    (book.modelDecision ownership roles { r with states := Value.texts states }).entries ≠ [] := by
  rw [modelDecision_texts, Trace.bind_eq, Trace.entries_andThen_ok _ _ () rfl]
  simp [Trace.note]

theorem modelDecision_agrees {states states' : List Text}
    (same : ∀ state, state ∈ states ↔ state ∈ states') :
    (book.modelDecision ownership roles { r with states := Value.texts states }).Agrees
      (book.modelDecision ownership roles { r with states := Value.texts states' }) := by
  have sameValues : ∀ state, state ∈ states.map Value.str ↔ state ∈ states'.map Value.str := by
    intro state
    simp only [List.mem_map, same]
  rw [modelDecision_texts, modelDecision_texts]
  simp only [same deletedState]
  apply Agrees.bind (.refl _)
  intro _
  cases book.models with
  | none => exact .refl _
  | some part => exact part.decision_agrees sameValues roles ownership r _

variable {ownership roles r}

/-- **The states of a record form a set.** Two lists of the same states never come to
different decisions, by any rulebook, on any trail and whatever the roles are. With roles that
are texts, they are answered alike on every trail, and on an open one with a decision. -/
theorem decideModel_of_same_states (names : OwnerNames) (trail : Trail) (roles : Value)
    (q : ModelInquiry) (states : List Text)
    (same : ∀ state, state ∈ states ↔ state ∈ q.states) :
    let answered (q : ModelInquiry) := (book.decideModel names.ownership trail roles q.request).2
    (∀ allow allow', answered q = .ok allow → answered { q with states } = .ok allow' →
        allow = allow') ∧
      (∀ texts, roles = Value.texts texts → answered { q with states } = answered q ∧
        (trail.IsOpen → ∃ allow, answered q = .ok allow)) := by
  intro answered
  have agrees := book.modelDecision_agrees names.ownership roles q.request
    fun state => (same state).symm
  constructor
  · intro allow allow' first second
    exact agrees allow allow' (trail.result_of_settle _ allow first)
      (trail.result_of_settle _ allow' second)
  · rintro texts rfl
    obtain ⟨allow, result⟩ : ∃ allow,
        (book.modelDecision names.ownership (Value.texts texts) q.request).result = .ok allow :=
      ⟨_, result_modelDecision texts names q⟩
    obtain ⟨allow', result'⟩ : ∃ allow, (book.modelDecision names.ownership (Value.texts texts)
        ({ q with states } : ModelInquiry).request).result = .ok allow :=
      ⟨_, result_modelDecision texts names { q with states }⟩
    obtain rfl : allow = allow' := agrees allow allow' result result'
    have left (states : List Text) :=
      book.entries_modelDecision_texts_ne_nil names.ownership (Value.texts texts) q.request states
    constructor
    · exact trail.snd_settle_congr allow result result' (left q.states) (left states)
    · intro isOpen
      exact ⟨allow, trail.settle_of_isOpen isOpen _ allow result⟩

/-- Users may read posts that are drafts and deleted. The order of the two states and how
often they are named make no difference to this, but the entries that are left do differ. -/
theorem decideModel_of_same_states_deleted_draft :
    let book := (enactAll {} [Value.texts ["all", "model:0"],
      Value.texts ["user", "model:post:read:draft:any:1"],
      Value.texts ["user", "model:post:read:deleted:any:1"]]).book
    let q : ModelInquiry :=
      { model := "post", action := "read", states := ["draft", "deleted"] }
    let states : List Text := ["deleted", "draft", "deleted"]
    let decided (q : ModelInquiry) :=
      book.modelDecision ({} : OwnerNames).ownership (Value.texts ["user"]) q.request
    (∀ state, state ∈ states ↔ state ∈ q.states) ∧
      (∀ trail : Trail, trail.IsOpen → (trail.settle (decided { q with states })).2 = .ok true) ∧
      (decided q).entries.length = 4 ∧ (decided { q with states }).entries.length = 5 := by
  intro book q states decided
  have same : ∀ state, state ∈ states ↔ state ∈ q.states := by simp [states, q, or_comm]
  refine ⟨same, ?_, by decide +kernel, by decide +kernel⟩
  intro trail isOpen
  have law := decideModel_of_same_states book {} trail (Value.texts ["user"]) q states same
  rw [show (trail.settle (decided { q with states })).2 = _ from (law.2 ["user"] rfl).1]
  exact trail.settle_of_isOpen isOpen _ true rfl

end Rulebook

end RoleAccess
