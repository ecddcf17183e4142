import RoleAccess.Proofs.Levels
import RoleAccess.Proofs.Targets
import RoleAccess.Rulebook.Enact
import RoleAccess.Rulebook.Lemmas
set_option autoImplicit false

/-! # The rulebook of a list of rules

Putting rules into a rulebook one by one leaves, at every address and for every role, the
decision of the last rule that targets the address and names the role (`lastDecision`).
Everything that is said about a rulebook of rules can therefore be read off the list. Pages
of actions are made exactly by the rules about the action.
-/

namespace RoleAccess

/-! ## Reading the list -/

/-- The decision of the last rule that targets an address and names a role. -/
def lastDecision (rules : List Rule) (address : Address) (role : Text) : Option Bool :=
  (rules.reverse.find? fun rule => rule.Targets address ∧ role ∈ rule.roles).map Rule.allow

@[simp] theorem lastDecision_nil (address : Address) (role : Text) :
    lastDecision [] address role = none := rfl

theorem lastDecision_append (rules more : List Rule) (address : Address) (role : Text) :
    lastDecision (rules ++ more) address role =
      (lastDecision more address role).or (lastDecision rules address role) := by
  simp [lastDecision, List.find?_append, Option.map_or]

theorem lastDecision_singleton (rule : Rule) (address : Address) (role : Text) :
    lastDecision [rule] address role =
      if rule.Targets address ∧ role ∈ rule.roles then some rule.allow else none := by
  by_cases h : rule.Targets address ∧ role ∈ rule.roles <;> simp [lastDecision, h]

theorem lastDecision_eq_none_iff (rules : List Rule) (address : Address) (role : Text) :
    lastDecision rules address role = none ↔
      ∀ rule ∈ rules, ¬(rule.Targets address ∧ role ∈ rule.roles) := by
  simp [lastDecision]

/-- What the last decisions at an address say to some roles. -/
def lastOpinion (rules : List Rule) (roles : List Text) (address : Address) : Option Bool :=
  levelOpinion roles (lastDecision rules address)

namespace Rulebook

/-- What the decisions at an address say to some roles. -/
def opinion (book : Rulebook) (roles : List Text) (address : Address) : Option Bool :=
  levelOpinion roles (book.decisionAt address)

theorem opinion_eq_bind (book : Rulebook) (roles : List Text) (address : Address) :
    book.opinion roles address = (book.allowsAt address).bind (Allows.opinion roles) := by
  unfold opinion Allows.opinion
  cases h : book.allowsAt address with
  | none =>
      have nothing : book.decisionAt address = fun _ => none := by
        funext role
        rw [decisionAt, h, Option.bind_none]
      rw [nothing, levelOpinion_nothing, Option.bind_none]
  | some allows =>
      refine levelOpinion_congr roles fun role => ?_
      rw [decisionAt, h, Option.bind_some]

end Rulebook

/-! ## One decision -/

theorem Allows.find?_assign (roles : List Text) (allow : Bool) (allows : Option Allows)
    (role : Text) :
    (Allows.assign roles allow allows).find? role =
      if role ∈ roles then some allow else allows.bind (Table.find? role) := by
  -- the table grows along the fold, so the induction is over any table
  have fold : ∀ (names : List Text) (table : Allows),
      (names.foldl (fun table name => table.put name allow) table).find? role =
        if role ∈ names then some allow else table.find? role := by
    intro names
    induction names with
    | nil => intro table; simp
    | cons name rest ih =>
        intro table
        rw [List.foldl_cons, ih, Table.find?_put]
        by_cases hrest : role ∈ rest <;> by_cases hname : role = name <;> simp [hrest, hname]
  rw [Allows.assign, fold]
  cases allows <;> rfl

namespace Rulebook

theorem decisionAt_insert (book : Rulebook) (roles : List Text) (allow : Bool)
    (address other : Address) (role : Text) :
    (book.insert roles allow address).decisionAt other role =
      if other = address ∧ role ∈ roles then some allow else book.decisionAt other role := by
  by_cases h : other = address
  · subst h
    rw [decisionAt, insert, allowsAt_modifyAt_self, Option.bind_some, Allows.find?_assign]
    by_cases hrole : role ∈ roles <;> simp [hrole, decisionAt]
  · rw [decisionAt, insert, allowsAt_modifyAt_of_ne _ _ _ _ h]
    simp [h, decisionAt]

theorem insertAll_cons (book : Rulebook) (roles : List Text) (allow : Bool)
    (address : Address) (rest : List Address) :
    book.insertAll roles allow (address :: rest) =
      (book.insert roles allow address).insertAll roles allow rest := rfl

theorem decisionAt_insertAll (book : Rulebook) (roles : List Text) (allow : Bool)
    (addresses : List Address) (other : Address) (role : Text) :
    (book.insertAll roles allow addresses).decisionAt other role =
      if other ∈ addresses ∧ role ∈ roles then some allow
      else book.decisionAt other role := by
  induction addresses generalizing book with
  | nil => simp [insertAll]
  | cons address rest ih =>
      rw [insertAll_cons, ih, decisionAt_insert]
      by_cases hrole : role ∈ roles <;> by_cases hrest : other ∈ rest <;>
        by_cases hfirst : other = address <;> simp [hrole, hrest, hfirst]

/-! ## Pages of actions -/

/-- A change makes the page of the action that its address is about, and no other. -/
theorem isSome_action?_modifyAt (book : Rulebook) (f : Option Allows → Allows)
    (address : Address) (model action : Text) :
    ((book.modifyAt f address).modelSection.action? model action).isSome ↔
      (book.modelSection.action? model action).isSome ∨
        address.modelAction? = some (model, action) := by
  cases address with
  | model name =>
      simp only [modifyAt, modelSection, Option.getD_some, Address.modelAction?]
      rw [ModelSection.action?_modifyPage]
      · simp
      · exact fun _ => rfl
  | creation name | action name act scope | state name act condition scope =>
      simp only [modifyAt, modelSection, Option.getD_some, Address.modelAction?,
        ModelSection.action?_modifyAction, Option.some.injEq, Prod.mk.injEq]
      split
      · next h => simp [h]
      · next h => exact ⟨Or.inl, fun e => e.elim id fun e => absurd ⟨e.1.symm, e.2.symm⟩ h⟩
  | _ => simp [modifyAt, modelSection, Address.modelAction?, ModelSection.action?]

/-- Only creation has decisions about the action as a whole. -/
theorem allow_action?_modifyAt (book : Rulebook) (f : Option Allows → Allows)
    (address : Address) (model action : Text) (hne : action ≠ createAction) :
    ((book.modifyAt f address).modelSection.action? model action).bind ActionPage.allow =
      (book.modelSection.action? model action).bind ActionPage.allow := by
  cases address with
  | model name =>
      simp only [modifyAt, modelSection, Option.getD_some]
      rw [ModelSection.action?_modifyPage]
      exact fun _ => rfl
  | creation name =>
      simp [modifyAt, modelSection, ModelSection.action?_modifyAction, hne]
  | action name act scope | state name act condition scope =>
      simp only [modifyAt, modelSection, Option.getD_some]
      rw [ModelSection.bind_action?_modifyAction]
      · rfl
      · exact fun _ _ _ => rfl
  | _ => rfl

theorem isSome_action?_insertAll (book : Rulebook) (roles : List Text) (allow : Bool)
    (addresses : List Address) (model action : Text) :
    ((book.insertAll roles allow addresses).modelSection.action? model action).isSome ↔
      (book.modelSection.action? model action).isSome ∨
        ∃ address ∈ addresses, address.modelAction? = some (model, action) := by
  induction addresses generalizing book with
  | nil => simp [insertAll]
  | cons address rest ih =>
      rw [insertAll_cons, ih, insert, isSome_action?_modifyAt]
      simp [or_assoc]

theorem allow_action?_insertAll (book : Rulebook) (roles : List Text) (allow : Bool)
    (addresses : List Address) (model action : Text) (hne : action ≠ createAction) :
    ((book.insertAll roles allow addresses).modelSection.action? model action).bind
        ActionPage.allow =
      (book.modelSection.action? model action).bind ActionPage.allow := by
  induction addresses generalizing book with
  | nil => rfl
  | cons address rest ih =>
      rw [insertAll_cons, ih, insert, allow_action?_modifyAt _ _ _ _ _ hne]

/-! ## One rule -/

theorem add_eq_ok_iff (book next : Rulebook) (rule : Rule) :
    book.add rule = .ok next ↔
      ∃ addresses, rule.addresses = .ok addresses ∧
        book.insertAll rule.roles rule.allow addresses = next :=
  map_eq_ok_iff _ _ _

/-- A rule gives its decision to its roles where it targets, and nothing else changes. -/
theorem decisionAt_add (book next : Rulebook) (rule : Rule) (added : book.add rule = .ok next)
    (address : Address) (role : Text) :
    next.decisionAt address role =
      if rule.Targets address ∧ role ∈ rule.roles then some rule.allow
      else book.decisionAt address role := by
  obtain ⟨addresses, accepted, rfl⟩ := (add_eq_ok_iff _ _ _).mp added
  simp only [decisionAt_insertAll, rule.mem_addresses_iff addresses accepted]

theorem opinion_add_of_not_targets (book next : Rulebook) (rule : Rule)
    (added : book.add rule = .ok next) (roles : List Text) (address : Address)
    (h : ¬rule.Targets address) : next.opinion roles address = book.opinion roles address := by
  refine levelOpinion_congr roles fun role => ?_
  rw [decisionAt_add book next rule added, if_neg fun targets => h targets.1]

/-- An allowance lifts a denial where it targets, if it is for everyone or for one of the
roles. -/
theorem opinion_add_eq_false_iff (book next : Rulebook) (rule : Rule)
    (added : book.add rule = .ok next) (allow : rule.allow = true) (roles : List Text)
    (address : Address) :
    next.opinion roles address = some false ↔
      book.opinion roles address = some false ∧
        ¬(rule.Targets address ∧ rule.IsFor roles) := by
  by_cases htargets : rule.Targets address
  · unfold opinion
    rw [levelOpinion_eq_false_iff, levelOpinion_eq_false_iff]
    simp only [decisionAt_add book next rule added, htargets, true_and, allow]
    constructor
    · rintro ⟨hroles, hall⟩
      have hall' : allRole ∉ rule.roles := fun h => by simp [h] at hall
      have hroles' : ∀ role ∈ roles, role ∉ rule.roles :=
        fun role hrole h => hroles role hrole (if_pos h)
      refine ⟨⟨fun role hrole => ?_, ?_⟩, ?_⟩
      · simpa [hroles' role hrole] using hroles role hrole
      · simpa [hall'] using hall
      · rintro (h | ⟨role, hrole, h⟩)
        · exact hall' h
        · exact hroles' role hrole h
    · rintro ⟨⟨hroles, hall⟩, unnamed⟩
      refine ⟨fun role hrole => ?_, ?_⟩
      · rw [if_neg fun h => unnamed (Or.inr ⟨role, hrole, h⟩)]
        exact hroles role hrole
      · rw [if_neg fun h => unnamed (Or.inl h)]
        exact hall
  · rw [opinion_add_of_not_targets book next rule added roles address htargets]
    simp [htargets]

theorem isSome_action?_add (book next : Rulebook) (rule : Rule)
    (added : book.add rule = .ok next) (model action : Text) :
    (next.modelSection.action? model action).isSome ↔
      (book.modelSection.action? model action).isSome ∨ rule.Concerns model action := by
  obtain ⟨addresses, accepted, rfl⟩ := (add_eq_ok_iff _ _ _).mp added
  rw [isSome_action?_insertAll, rule.concerns_iff addresses accepted]

theorem allow_action?_add (book next : Rulebook) (rule : Rule)
    (added : book.add rule = .ok next) (model action : Text) (hne : action ≠ createAction) :
    (next.modelSection.action? model action).bind ActionPage.allow =
      (book.modelSection.action? model action).bind ActionPage.allow := by
  obtain ⟨addresses, accepted, rfl⟩ := (add_eq_ok_iff _ _ _).mp added
  exact allow_action?_insertAll _ _ _ _ _ _ hne

theorem enact_eq_ok_iff (book next : Rulebook) (value : Value) (rule : Rule) :
    book.enact value = .ok (next, rule) ↔
      Rule.parse value = .ok rule ∧ book.add rule = .ok next := by
  cases hparse : Rule.parse value with
  | error fault => simp [enact, hparse, bind, Except.bind]
  | ok read =>
      cases hadd : book.add read with
      | error fault =>
          simp only [enact, hparse, hadd, bind, Except.bind, Except.ok.injEq]
          constructor
          · intro h
            cases h
          · rintro ⟨rfl, h⟩
            rw [hadd] at h
            cases h
      | ok made =>
          simp only [enact, hparse, hadd, bind, Except.bind, pure, Except.pure,
            Except.ok.injEq, Prod.mk.injEq]
          constructor
          · rintro ⟨rfl, rfl⟩
            exact ⟨rfl, hadd⟩
          · rintro ⟨rfl, h⟩
            rw [hadd] at h
            exact ⟨Except.ok.inj h, rfl⟩

/-! ## A list of rules -/

/-- What holds at the start and is kept by every accepted rule holds of the rulebook and the
rules that were put in, whether or not a rule was rejected in the end. -/
theorem enactAll_induction {motive : Rulebook → List Rule → Prop}
    (step : ∀ book rules rule next, motive book rules → book.add rule = .ok next →
      motive next (rules ++ [rule]))
    (book : Rulebook) (start : motive book []) (values : List Value) :
    motive (book.enactAll values).book (book.enactAll values).enacted := by
  -- the rules put in before stay in front, so the induction is over any of them
  have run : ∀ (values : List Value) (book : Rulebook) (rules : List Rule),
      motive book rules →
        motive (book.enactAll values).book (rules ++ (book.enactAll values).enacted) := by
    intro values
    induction values with
    | nil =>
        intro book rules h
        simpa [enactAll] using h
    | cons value rest ih =>
        intro book rules h
        cases henact : book.enact value with
        | error fault => simpa [enactAll, henact] using h
        | ok made =>
            obtain ⟨next, rule⟩ := made
            have added := ((enact_eq_ok_iff _ _ _ _).mp henact).2
            have := ih next (rules ++ [rule]) (step book rules rule next h added)
            simpa [enactAll, henact] using this
  simpa using run values book [] start

/-- If no rule is rejected, the rules that were put in are the ones that were read. -/
theorem parse_enacted (book : Rulebook) (values : List Value)
    (accepted : (book.enactAll values).fault = none) :
    values.map Rule.parse = (book.enactAll values).enacted.map .ok := by
  induction values generalizing book with
  | nil => rfl
  | cons value rest ih =>
      cases henact : book.enact value with
      | error fault => simp [enactAll, henact] at accepted
      | ok made =>
          obtain ⟨next, rule⟩ := made
          have read := ((enact_eq_ok_iff _ _ _ _).mp henact).1
          have := ih next (by simpa [enactAll, henact] using accepted)
          simp [enactAll, henact, read, this]

theorem enacted_of_read (values : List Value) (rules : List Rule)
    (read : values.map Rule.parse = rules.map .ok)
    (accepted : (enactAll {} values).fault = none) : (enactAll {} values).enacted = rules := by
  rw [parse_enacted {} values accepted] at read
  exact (List.map_inj_right fun _ _ => Except.ok.inj).mp read

/-- Putting one more rule in at the end. -/
theorem add_of_enactAll_append (book : Rulebook) (values : List Value) (value : Value)
    (valid : (book.enactAll (values ++ [value])).fault = none) (rule : Rule)
    (read : Rule.parse value = .ok rule) :
    (book.enactAll values).book.add rule = .ok (book.enactAll (values ++ [value])).book := by
  induction values generalizing book with
  | nil =>
      cases henact : book.enact value with
      | error fault => simp [enactAll, henact] at valid
      | ok made =>
          obtain ⟨next, found⟩ := made
          obtain ⟨hread, hadd⟩ := (enact_eq_ok_iff _ _ _ _).mp henact
          rw [read] at hread
          cases hread
          simpa [enactAll, henact] using hadd
  | cons first rest ih =>
      cases henact : book.enact first with
      | error fault => simp [enactAll, henact] at valid
      | ok made =>
          obtain ⟨next, found⟩ := made
          have := ih next (by simpa [enactAll, henact] using valid)
          simpa [enactAll, henact] using this

/-! ## The rulebook of the rules -/

/-- The empty rulebook holds no decisions. -/
theorem allowsAt_empty (address : Address) : ({} : Rulebook).allowsAt address = none := by
  cases address with
  | route segments | routeMethod segments method => cases segments <;> rfl
  | _ => rfl

/-- The rulebook of a list of rules holds their last decisions. -/
theorem decisionAt_enactAll (values : List Value) (address : Address) (role : Text) :
    (enactAll {} values).book.decisionAt address role =
      lastDecision (enactAll {} values).enacted address role := by
  refine enactAll_induction
    (motive := fun book rules => book.decisionAt address role = lastDecision rules address role)
    ?_ {} ?_ values
  · intro book rules rule next holds added
    rw [decisionAt_add book next rule added, lastDecision_append, lastDecision_singleton, holds]
    split <;> rfl
  · rw [decisionAt, allowsAt_empty, Option.bind_none, lastDecision_nil]

theorem opinion_enactAll (values : List Value) (roles : List Text) (address : Address) :
    (enactAll {} values).book.opinion roles address =
      lastOpinion (enactAll {} values).enacted roles address :=
  levelOpinion_congr roles fun role => decisionAt_enactAll values address role

/-- There is a page for an action if a rule is about it. -/
theorem isSome_action?_enactAll (values : List Value) (model action : Text) :
    ((enactAll {} values).book.modelSection.action? model action).isSome ↔
      ∃ rule ∈ (enactAll {} values).enacted, rule.Concerns model action := by
  refine enactAll_induction
    (motive := fun book rules => (book.modelSection.action? model action).isSome ↔
      ∃ rule ∈ rules, rule.Concerns model action) ?_ {} ?_ values
  · intro book rules rule next holds added
    rw [isSome_action?_add book next rule added, holds]
    simp [or_and_right, exists_or]
  · simp [modelSection, ModelSection.action?]

/-- Rules give no decision about an action as a whole, apart from creation. -/
theorem allow_action?_enactAll (values : List Value) (model action : Text)
    (hne : action ≠ createAction) :
    ((enactAll {} values).book.modelSection.action? model action).bind ActionPage.allow =
      none := by
  refine enactAll_induction
    (motive := fun book _ =>
      (book.modelSection.action? model action).bind ActionPage.allow = none) ?_ {} ?_ values
  · intro book rules rule next holds added
    rw [allow_action?_add book next rule added model action hne, holds]
  · rfl

end Rulebook

end RoleAccess
