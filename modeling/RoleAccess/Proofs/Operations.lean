import RoleAccess.Policy.Call
import RoleAccess.Proofs.Batches
set_option autoImplicit false

/-! # What the operations of a policy change

Adding and replacing rules makes a new rulebook if the rules are accepted, and changes
nothing if they are rejected. All other operations leave the rules alone: one sets an
ownership field, some compute the fingerprint on the way, and deciding a query keeps its
trail. An operation that fails changes nothing but the fingerprint, which may be known then.
-/

namespace RoleAccess

theorem bind_eq_ok_iff {ε α β : Type} (first : Except ε α) (next : α → Except ε β) (b : β) :
    first >>= next = .ok b ↔ ∃ a, first = .ok a ∧ next a = .ok b := by
  cases first <;> simp [bind, Except.bind]

theorem Outcome.policy_andThen {α β : Type} (first : Outcome α) (f : Policy → α → Outcome β)
    (keeps : ∀ a, (f first.policy a).policy = first.policy) :
    (first.andThen f).policy = first.policy := by
  unfold andThen
  split
  · rfl
  · next a _ => exact keeps a

theorem Outcome.result_andThen {α β : Type} (first : Outcome α) (f : Policy → α → Outcome β) :
    (first.andThen f).result = first.result >>= fun a => (f first.policy a).result := by
  unfold andThen
  cases first.result <;> rfl

theorem Outcome.result_andThen_eq_ok_iff {α β : Type} (first : Outcome α)
    (f : Policy → α → Outcome β) (b : β) :
    (first.andThen f).result = .ok b ↔
      ∃ a, first.result = .ok a ∧ (f first.policy a).result = .ok b := by
  rw [result_andThen, bind_eq_ok_iff]

theorem Outcome.error_of_map {α β : Type} (outcome : Outcome α) (f : α → β) (e : Failure)
    (failed : (outcome.map f).result = .error e) : outcome.result = .error e := by
  unfold map at failed
  cases result : outcome.result with
  | error found => simpa [result, Except.map] using failed
  | ok a => simp [result, Except.map] at failed

namespace Policy

variable (policy : Policy)

/-! ## Rules -/

/-- What an update with some rules comes to. -/
def updateResult (rules : Value) : Except Failure Unit :=
  match Rule.listRejection? rules with
  | some fault => .error (.rule fault)
  | none => .ok ()

theorem updateResult_eq_ok_iff (rules : Value) :
    updateResult rules = .ok () ↔
      ∃ items, rules.items? = some items ∧ items.findSome? Rule.rejection? = none := by
  rw [← Rule.listRejection?_eq_none_iff, updateResult]
  cases Rule.listRejection? rules <;> simp

theorem result_addRules (rules isDefault : Value) :
    (policy.addRules rules isDefault).result = updateResult rules := by
  simp only [addRules, Rulebook.fault_enactList, updateResult]
  cases Rule.listRejection? rules <;> rfl

theorem policy_addRules (rules isDefault : Value) (items : List Value)
    (given : rules.items? = some items) (accepted : items.findSome? Rule.rejection? = none) :
    let made := policy.book.enactAll items
    (policy.addRules rules isDefault).policy =
      { policy with
        book := made.book
        id := none
        defaults :=
          if isDefault.truthy then policy.defaults ++ made.enacted else policy.defaults } := by
  simp only [addRules, Rulebook.enactList, given, Rulebook.fault_enactAll, accepted]

theorem policy_addRules_of_error (rules isDefault : Value) (e : Failure)
    (failed : (policy.addRules rules isDefault).result = .error e) :
    (policy.addRules rules isDefault).policy = policy := by
  cases fault : (policy.book.enactList rules).fault with
  | none => simp [addRules, fault] at failed
  | some found => simp only [addRules, fault]

theorem policy_replaceDynamic_of_error (rules : Value) (e : Failure)
    (failed : (policy.replaceDynamic rules).result = .error e) :
    (policy.replaceDynamic rules).policy = policy := by
  cases fault : (policy.enactReplacement rules).fault with
  | none => simp [replaceDynamic, fault] at failed
  | some found => simp only [replaceDynamic, fault]

section Replacement

variable (defaults : List Value) (read : defaults.map Rule.parse = policy.defaults.map .ok)
  (kept : (Rulebook.enactAll {} defaults).fault = none) (rules : Value)

include read kept

/-- Default rules that are accepted fail no replacement. -/
theorem fault_enactReplacement :
    (policy.enactReplacement rules).fault = Rule.listRejection? rules := by
  have base := Rulebook.addAll_of_read {} defaults policy.defaults read
  simp only [enactReplacement, base, kept, Rulebook.fault_enactList]

theorem result_replaceDynamic : (policy.replaceDynamic rules).result = updateResult rules := by
  simp only [replaceDynamic, policy.fault_enactReplacement defaults read kept, updateResult]
  cases Rule.listRejection? rules <;> rfl

theorem policy_replaceDynamic (items : List Value) (given : rules.items? = some items)
    (accepted : items.findSome? Rule.rejection? = none) :
    (policy.replaceDynamic rules).policy =
      { policy with book := (Rulebook.enactAll {} (defaults ++ items)).book, id := none } := by
  have base := Rulebook.addAll_of_read {} defaults policy.defaults read
  have made : policy.enactReplacement rules = Rulebook.enactAll {} (defaults ++ items) := by
    simp only [enactReplacement, base, kept, Rulebook.enactList, given]
    rw [Rulebook.enactAll_append {} defaults items kept]
  have unfailed := policy.fault_enactReplacement defaults read kept rules
  rw [Rule.listRejection?_of_items rules items given, accepted, made] at unfailed
  simp only [replaceDynamic, made, unfailed]

end Replacement

/-! ## Ownership fields -/

theorem eq_of_nameArgument (argument : Text) (value : Value) (name : Text)
    (named : nameArgument argument value = .ok name) : value = .str name := by
  unfold nameArgument at named
  split at named
  · split at named <;> cases named
    rfl
  · cases named

theorem setOwnerField_cases (model field : Value) :
    (∃ e, policy.setOwnerField model field = policy.answer (.error (.request e))) ∨
      ∃ name fieldName, model = .str name ∧ field = .str fieldName ∧
        policy.setOwnerField model field =
          { policy :=
              { policy with ownerFields := policy.ownerFields.put name fieldName, id := none }
            result := .ok () } := by
  unfold setOwnerField
  cases named : nameArgument "model" model with
  | error e => exact Or.inl ⟨e, rfl⟩
  | ok name =>
      cases owned : nameArgument "access_id_name" field with
      | error e => exact Or.inl ⟨e, rfl⟩
      | ok fieldName =>
          refine Or.inr ⟨name, fieldName, ?_, ?_, rfl⟩
          · exact eq_of_nameArgument _ _ _ named
          · exact eq_of_nameArgument _ _ _ owned

/-! ## The fingerprint -/

theorem policy_currentId : ∃ id, policy.currentId.policy = { policy with id } := by
  unfold currentId
  split
  · exact ⟨policy.id, rfl⟩
  · split
    · exact ⟨policy.id, rfl⟩
    · next id _ => exact ⟨some id, rfl⟩

/-- Showing rules computes the fingerprint. -/
theorem policy_showRules_eq (resource : Value) :
    (policy.showRules resource).policy = policy.currentId.policy := by
  refine Outcome.policy_andThen _ _ fun _ => ?_
  cases resource <;> rfl

theorem policy_showRules (resource : Value) :
    ∃ id, (policy.showRules resource).policy = { policy with id } := by
  rw [policy_showRules_eq]
  exact policy.policy_currentId

/-! ## Checks -/

theorem policy_openTrail (query : Query) (audit : Value) :
    ∃ id, (policy.openTrail query audit).policy = { policy with id } := by
  unfold openTrail
  split
  · exact policy.policy_currentId
  · exact ⟨policy.id, rfl⟩

/-- A check computes the fingerprint if it is audited, and changes nothing else. -/
theorem policy_check_eq (query : Query) (audit : Value) :
    (policy.check query audit).policy = policy ∨
      (policy.check query audit).policy = policy.currentId.policy := by
  unfold check
  split
  · exact Or.inl rfl
  · rw [Outcome.policy_andThen _ _ fun _ => rfl, openTrail]
    split
    · exact Or.inr rfl
    · exact Or.inl rfl

theorem policy_check (query : Query) (audit : Value) :
    ∃ id, (policy.check query audit).policy = { policy with id } := by
  obtain same | same := policy.policy_check_eq query audit
  · exact ⟨policy.id, same⟩
  · rw [same]
    exact policy.policy_currentId

/-- Deciding a query fails with its check, or else keeps the trail of the check. -/
theorem decide_cases (query : Query) (audit : Value) :
    (∃ e id, (policy.decide query audit).result = .error e ∧
        (policy.decide query audit).policy = { policy with id }) ∨
      ∃ checked id, (policy.check query audit).result = .ok checked ∧
        (policy.decide query audit).result = .ok checked.ruling ∧
        (policy.decide query audit).policy =
          { policy with id, lastAudit := some checked.trail } := by
  obtain ⟨id, same⟩ := policy.policy_check query audit
  cases result : (policy.check query audit).result with
  | error e =>
      refine Or.inl ⟨e, id, ?_⟩
      simp only [decide, Outcome.andThen, result, same, and_self]
  | ok checked =>
      refine Or.inr ⟨checked, id, rfl, ?_⟩
      simp only [decide, Outcome.andThen, result, same, and_self]

/-! ## New policies -/

/-- A new policy has no rules, or else the ones it is made with, which are accepted. -/
theorem create_cases (settings : Option (Table Value)) (strict audit rules : Value)
    (start : Policy) (events : List Event)
    (created : create settings strict audit rules = .ok (start, events)) :
    ∃ config, rules = .null ∧ start = { config } ∨
      rules ≠ .null ∧ (addRules { config } rules (.bool true)).result = .ok () ∧
        (addRules { config } rules (.bool true)).policy = start := by
  -- the settings come first, and nothing but the configuration is made of them
  obtain ⟨base, -, created⟩ := (bind_eq_ok_iff _ _ _).mp created
  obtain ⟨config, -, created⟩ := (bind_eq_ok_iff _ _ _).mp created
  refine ⟨config, ?_⟩
  cases rules with
  | null =>
      cases created
      exact Or.inl ⟨rfl, rfl⟩
  | _ =>
      obtain ⟨_, added, made⟩ := (bind_eq_ok_iff _ _ _).mp created
      cases made
      exact Or.inr ⟨nofun, added, rfl⟩

/-! ## Failed operations -/

/-- An operation that fails changes nothing but the fingerprint. -/
theorem step_of_error (call : Call) (e : Failure)
    (failed : (policy.step call).result = .error e) :
    ∃ id, (policy.step call).policy = { policy with id } := by
  have unchanged {next : Policy} (same : next = policy) : ∃ id, next = { policy with id } :=
    ⟨policy.id, same⟩
  cases call with
  | addRule rule isDefault | addRules rules isDefault =>
      exact unchanged (policy.policy_addRules_of_error _ _ e (Outcome.error_of_map _ _ e failed))
  | replaceDynamic rules =>
      exact unchanged
        (policy.policy_replaceDynamic_of_error rules e (Outcome.error_of_map _ _ e failed))
  | setOwnerField model field =>
      obtain ⟨fault, refused⟩ | ⟨name, fieldName, -, -, put⟩ :=
        policy.setOwnerField_cases model field
      · exact unchanged (by rw [step, refused]; rfl)
      · rw [step, put] at failed
        cases failed
  | ownerField model | sessionRoles session | judgeLevel check => exact unchanged rfl
  | showRules resource => exact policy.policy_showRules resource
  | identify => exact policy.policy_currentId
  | check query audit => exact policy.policy_check query audit
  | decide query audit =>
      obtain ⟨-, id, -, same⟩ | ⟨checked, -, -, decided, -⟩ := policy.decide_cases query audit
      · exact ⟨id, same⟩
      · rw [Outcome.error_of_map _ _ e failed] at decided
        cases decided

/-! ## What a call can make of a policy -/

/-- What a call can make of a policy. -/
inductive Successor (policy : Policy) : Policy → Prop
  /-- At most the last audit is another one. -/
  | kept (lastAudit : Option Trail) : Successor policy { policy with lastAudit }
  /-- The fingerprint is computed on the way. -/
  | identified (lastAudit : Option Trail) :
      Successor policy { policy.currentId.policy with lastAudit }
  /-- The rules are changed, and the fingerprint is forgotten. -/
  | ruled (book : Rulebook) (defaults : List Rule) :
      Successor policy { policy with book, defaults, id := none }
  /-- An ownership field is set, and the fingerprint is forgotten. -/
  | owned (model field : Text) :
      Successor policy { policy with ownerFields := policy.ownerFields.put model field, id := none }

theorem successor_of_eq {next : Policy} (same : next = policy) : policy.Successor next := by
  rw [same]
  exact .kept policy.lastAudit

theorem successor_addRules (rules isDefault : Value) :
    policy.Successor (policy.addRules rules isDefault).policy := by
  cases fault : (policy.book.enactList rules).fault with
  | some found => exact policy.successor_of_eq (by simp only [addRules, fault])
  | none =>
      simp only [addRules, fault]
      exact .ruled _ _

theorem successor_replaceDynamic (rules : Value) :
    policy.Successor (policy.replaceDynamic rules).policy := by
  cases fault : (policy.enactReplacement rules).fault with
  | some found => exact policy.successor_of_eq (by simp only [replaceDynamic, fault])
  | none =>
      simp only [replaceDynamic, fault]
      exact .ruled _ _

theorem successor_decide (query : Query) (audit : Value) :
    policy.Successor (policy.decide query audit).policy := by
  -- the last audit is the only thing that a decision changes after its check
  have after : ∃ lastAudit, (policy.decide query audit).policy =
      { (policy.check query audit).policy with lastAudit } := by
    unfold decide Outcome.andThen
    split
    · exact ⟨(policy.check query audit).policy.lastAudit, rfl⟩
    · exact ⟨_, rfl⟩
  obtain ⟨lastAudit, decided⟩ := after
  rw [decided]
  obtain same | same := policy.policy_check_eq query audit
  · rw [same]
    exact .kept lastAudit
  · rw [same]
    exact .identified lastAudit

theorem successor_step (call : Call) : policy.Successor (policy.step call).policy := by
  cases call with
  | addRule rule isDefault => exact policy.successor_addRules (.list [rule]) isDefault
  | addRules rules isDefault => exact policy.successor_addRules rules isDefault
  | replaceDynamic rules => exact policy.successor_replaceDynamic rules
  | setOwnerField model field =>
      obtain ⟨fault, refused⟩ | ⟨name, fieldName, -, -, put⟩ :=
        policy.setOwnerField_cases model field
      · rw [step, refused]
        exact policy.successor_of_eq rfl
      · rw [step, put]
        exact .owned name fieldName
  | ownerField model | sessionRoles session | judgeLevel check => exact policy.successor_of_eq rfl
  | showRules resource =>
      rw [step, Outcome.map, policy_showRules_eq]
      exact .identified policy.currentId.policy.lastAudit
  | identify => exact .identified policy.currentId.policy.lastAudit
  | check query audit =>
      obtain same | same := policy.policy_check_eq query audit
      · exact policy.successor_of_eq same
      · rw [step, Outcome.map, same]
        exact .identified policy.currentId.policy.lastAudit
  | decide query audit => exact policy.successor_decide query audit

end Policy

end RoleAccess
