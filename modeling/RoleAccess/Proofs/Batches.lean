import RoleAccess.Proofs.Compilation
import RoleAccess.Proofs.RuleTexts
set_option autoImplicit false

/-! # Rules that are put in together

Whether a rule is rejected does not depend on the rulebook that it is put into. A list of
rules is therefore rejected for the first rule in it that is rejected on its own, and two
lists can be put in one after the other or as one. Rules that have been read are put in like
what they were read from.
-/

namespace RoleAccess

namespace Rule

/-- Why a rule is rejected on its own, by an empty rulebook, if it is. -/
def rejection? (value : Value) : Option RuleFault := (Rulebook.enactAll {} [value]).fault

/-- Why rules are rejected together, if they are: for being no list, or else for the first
rule that is rejected. -/
def listRejection? (rules : Value) : Option RuleFault :=
  match rules.items? with
  | none => some (.rulesNotAList rules)
  | some items => items.findSome? rejection?

theorem listRejection?_of_items (rules : Value) (items : List Value)
    (given : rules.items? = some items) :
    listRejection? rules = items.findSome? rejection? := by
  rw [listRejection?, given]

theorem listRejection?_eq_none_iff (rules : Value) :
    listRejection? rules = none ↔
      ∃ items, rules.items? = some items ∧ items.findSome? rejection? = none := by
  unfold listRejection?
  cases rules.items? <;> simp

end Rule

namespace Rulebook

variable (book : Rulebook)

/-! ## One rule -/

/-- Either a rule cannot be read, or it spells no address. -/
theorem enact_eq_error_iff (value : Value) (fault : RuleFault) :
    book.enact value = .error fault ↔
      Rule.parse value = .error fault ∨
        ∃ rule, Rule.parse value = .ok rule ∧ rule.addresses = .error fault := by
  cases read : Rule.parse value with
  | error found => simp [enact, read, bind, Except.bind]
  | ok rule =>
      cases spelled : rule.addresses with
      | error found => simp [enact, add, read, spelled, Except.map, bind, Except.bind]
      | ok addresses =>
          simp [enact, add, read, spelled, Except.map, bind, Except.bind, pure, Except.pure]

theorem rejection?_eq_some_iff (value : Value) (fault : RuleFault) :
    Rule.rejection? value = some fault ↔ book.enact value = .error fault := by
  rw [enact_eq_error_iff, ← enact_eq_error_iff {}]
  unfold Rule.rejection? enactAll
  cases enact {} value with
  | error found => simp
  | ok made => simp [enactAll]

/-- A rule that has been read is put in as it was read. -/
theorem enact_of_read (value : Value) (rule : Rule) (read : Rule.parse value = .ok rule) :
    book.enact value = (book.add rule).map (·, rule) := by
  simp only [enact, read, bind, Except.bind]
  cases book.add rule <;> rfl

/-! ## Lists of rules -/

theorem fault_enactAll (values : List Value) :
    (book.enactAll values).fault = values.findSome? Rule.rejection? := by
  induction values generalizing book with
  | nil => rfl
  | cons value rest ih =>
      rw [List.findSome?_cons]
      cases henact : book.enact value with
      | error fault =>
          rw [(book.rejection?_eq_some_iff value fault).mpr henact]
          simp [enactAll, henact]
      | ok made =>
          have unrejected : Rule.rejection? value = none := by
            rw [Option.eq_none_iff_forall_ne_some]
            intro fault rejected
            rw [book.rejection?_eq_some_iff, henact] at rejected
            cases rejected
          simp [enactAll, henact, unrejected, ih]

theorem fault_enactList (rules : Value) :
    (book.enactList rules).fault = Rule.listRejection? rules := by
  unfold enactList
  cases given : rules.items? with
  | none => rw [Rule.listRejection?, given]
  | some items => rw [Rule.listRejection?_of_items rules items given, ← book.fault_enactAll]

/-- Two lists can be put in one after the other. -/
theorem enactAll_append (values more : List Value)
    (accepted : (book.enactAll values).fault = none) :
    book.enactAll (values ++ more) =
      let first := book.enactAll values
      let second := first.book.enactAll more
      { second with enacted := first.enacted ++ second.enacted } := by
  induction values generalizing book with
  | nil => rfl
  | cons value rest ih =>
      cases henact : book.enact value with
      | error fault => simp [enactAll, henact] at accepted
      | ok made =>
          have rest_accepted : (made.1.enactAll rest).fault = none := by
            simpa [enactAll, henact] using accepted
          simp [enactAll, henact, ih made.1 rest_accepted]

/-- Rules that have been read are put in like what they were read from. -/
theorem addAll_of_read (values : List Value) (rules : List Rule)
    (read : values.map Rule.parse = rules.map .ok) : book.addAll rules = book.enactAll values := by
  induction rules generalizing book values with
  | nil =>
      obtain rfl : values = [] := List.map_eq_nil_iff.mp read
      rfl
  | cons rule rest ih =>
      obtain ⟨value, others, rfl, first, remaining⟩ := List.map_eq_cons_iff.mp read
      rw [addAll, enactAll, book.enact_of_read value rule first]
      cases book.add rule with
      | error fault => rfl
      | ok next => simp [Except.map, ih next others remaining]

/-! ## What every write keeps -/

section Invariant

variable {book} {inv : Rulebook → Prop}
  (kept : ∀ (book : Rulebook) (rule : Rule) (address : Address), rule.IsWritable →
    address.IsSpelled → inv book → inv (book.insert rule.roles rule.allow address))
  (holds : inv book)

include kept holds

/-- What is kept by every write that a rule can make is kept by an accepted rule. -/
theorem enact_invariant (value : Value) (next : Rulebook) (rule : Rule)
    (enacted : book.enact value = .ok (next, rule)) : inv next := by
  obtain ⟨read, added⟩ := (book.enact_eq_ok_iff next value rule).mp enacted
  obtain ⟨addresses, accepted, rfl⟩ := (add_eq_ok_iff _ _ _).mp added
  have writable := Rule.isWritable_of_parse value rule read
  obtain ⟨-, spelled⟩ := rule.isRuleText_of_addresses writable.clauses addresses accepted
  -- the rule is written at one address after the other
  clear enacted added accepted
  induction addresses generalizing book with
  | nil => exact holds
  | cons address rest ih =>
      obtain ⟨first, others⟩ := List.forall_mem_cons.mp spelled
      rw [insertAll_cons]
      exact ih (kept book rule address writable first holds) others

/-- Rules up to the first that is rejected keep what every write keeps. -/
theorem enactAll_invariant (values : List Value) : inv (book.enactAll values).book := by
  induction values generalizing book with
  | nil => exact holds
  | cons value rest ih =>
      cases enacted : book.enact value with
      | error fault => simpa only [enactAll, enacted] using holds
      | ok made =>
          obtain ⟨next, rule⟩ := made
          simpa only [enactAll, enacted] using
            ih (enact_invariant kept holds value next rule enacted)

end Invariant

end Rulebook

end RoleAccess
