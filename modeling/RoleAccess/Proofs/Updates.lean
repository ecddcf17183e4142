import RoleAccess.Proofs.RuleLog
set_option autoImplicit false

/-! # Updates of the rules are made in full or not at all

Rules are added, or replace the dynamic ones, exactly if they are a list and each of them is
accepted on its own. What a policy holds already does not come into it: a reachable policy
follows a log, so its default rules are accepted by every rulebook. An update that fails
tells why the first bad rule is rejected and leaves the policy as it was.
-/

namespace RoleAccess

namespace Policy

/-- A policy that some calls on a new one come to. -/
inductive Reachable : Policy → Prop
  | created (settings : Option (Table Value)) (strict audit rules : Value) (start : Policy)
      (events : List Event) (made : create settings strict audit rules = .ok (start, events)) :
      Reachable start
  | called (policy : Policy) (call : Call) (reachable : Reachable policy) :
      Reachable (policy.step call).policy

theorem Reachable.follows (policy : Policy) (reachable : policy.Reachable) :
    ∃ log, policy.Follows log := by
  induction reachable with
  | created settings strict audit rules start events made =>
      exact ⟨_, Follows.create settings strict audit rules start events made⟩
  | called policy call _ ih =>
      obtain ⟨log, follows⟩ := ih
      exact ⟨_, follows.step call⟩

/-- What holds of policies without rules, and of what a call makes of a policy if it holds of
the policy, holds of every reachable policy. -/
theorem Reachable.invariant {motive : Policy → Prop} (start : ∀ config, motive { config })
    (step : ∀ policy next, motive policy → Successor policy next → motive next)
    (policy : Policy) (reachable : policy.Reachable) : motive policy := by
  induction reachable with
  | created settings strict audit rules start' events made =>
      obtain ⟨config, ⟨-, rfl⟩ | ⟨-, -, rfl⟩⟩ :=
        create_cases settings strict audit rules start' events made
      · exact start config
      · exact step _ _ (start config) (successor_addRules _ rules (.bool true))
  | called policy call _ ih => exact step _ _ ih (policy.successor_step call)

/-- An attempt to update a policy with some rules that does what it should. -/
structure Updates (policy : Policy) (rules : Value) (outcome : Outcome Unit) : Prop where
  /-- It fails exactly if the rules are no list or one of them is rejected on its own. -/
  fails_iff : (∃ e, outcome.result = .error e) ↔
    rules.items? = none ∨
      ∃ items, rules.items? = some items ∧ ∃ item ∈ items, (Rule.rejection? item).isSome
  /-- What is no list is an invalid input. -/
  notAList : rules.items? = none →
    outcome.result = .error (.rule (.rulesNotAList rules)) ∧
      (RuleFault.rulesNotAList rules).cls = .invalidInput
  /-- The first rule that is rejected tells why. -/
  firstRejected : ∀ before item after fault, rules.items? = some (before ++ item :: after) →
    (∀ earlier ∈ before, Rule.rejection? earlier = none) → Rule.rejection? item = some fault →
      outcome.result = .error (.rule fault)
  /-- A failure leaves no trace. -/
  unchanged : ∀ e, outcome.result = .error e → outcome.policy = policy

theorem updates_of_result (policy : Policy) (rules : Value) (outcome : Outcome Unit)
    (result : outcome.result = updateResult rules)
    (unchanged : ∀ e, outcome.result = .error e → outcome.policy = policy) :
    policy.Updates rules outcome where
  fails_iff := by
    -- the result is an error exactly if there is a reason to reject the rules
    have fails : (∃ e, outcome.result = .error e) ↔ (Rule.listRejection? rules).isSome := by
      rw [result, updateResult]
      cases Rule.listRejection? rules <;> simp
    rw [fails]
    cases given : rules.items? <;> simp [Rule.listRejection?, given]
  notAList none := by
    rw [result, updateResult, Rule.listRejection?, none]
    exact ⟨rfl, rfl⟩
  firstRejected before item after fault given earlier rejected := by
    have passed : before.findSome? Rule.rejection? = none :=
      List.findSome?_eq_none_iff.mpr earlier
    have first : (before ++ item :: after).findSome? Rule.rejection? = some fault := by
      rw [List.findSome?_append, passed, Option.none_or, List.findSome?_cons, rejected]
    rw [result, updateResult, Rule.listRejection?_of_items rules _ given, first]
  unchanged := unchanged

/-- **Updates are made in full or not at all.** -/
theorem updates_of_reachable (policy : Policy) (reachable : policy.Reachable)
    (rules isDefault : Value) :
    policy.Updates rules (policy.addRules rules isDefault) ∧
      policy.Updates rules (policy.replaceDynamic rules) ∧
      (({} : Rulebook).addAll policy.defaults).fault = none := by
  obtain ⟨log, follows⟩ := reachable.follows
  refine ⟨?_, ?_, ?_⟩
  · exact updates_of_result policy rules _ (policy.result_addRules rules isDefault)
      (policy.policy_addRules_of_error rules isDefault)
  · exact updates_of_result policy rules _
      (policy.result_replaceDynamic log.defaults follows.defaultsRead follows.defaultsAccepted
        rules)
      (policy.policy_replaceDynamic_of_error rules)
  · rw [Rulebook.addAll_of_read {} log.defaults policy.defaults follows.defaultsRead]
    exact follows.defaultsAccepted

/-- A replacement with a denial for users is rejected for it, and the policy that users may
read the routes of stays as it is. -/
theorem updates_of_reachable_denied_role :
    let routes := Value.texts ["user", "route:1"]
    let denial := Value.texts ["user", "model:0"]
    ∃ start events, create none .null .null (.list [routes]) = .ok (start, events) ∧
      let policy := (start.step (.setOwnerField (.str "post") (.str "userId"))).policy
      let replaced := policy.replaceDynamic (.list [routes, denial, .null])
      policy.Reachable ∧ replaced.result = .error (.rule (.roleDenied "user,model:0")) ∧
        replaced.policy = policy := by
  intro routes denial
  refine ⟨_, _, rfl, ?_⟩
  intro policy replaced
  have reachable : policy.Reachable :=
    .called _ _ (.created none .null .null (.list [routes]) _ _ rfl)
  obtain ⟨-, replacement, -⟩ :=
    updates_of_reachable policy reachable (.list [routes, denial, .null]) .null
  have rejected : replaced.result = .error (.rule (.roleDenied "user,model:0")) := by
    refine replacement.firstRejected [routes] denial [.null] _ rfl ?_ rfl
    intro earlier first
    obtain rfl := List.mem_singleton.mp first
    rfl
  exact ⟨reachable, rejected, replacement.unchanged _ rejected⟩

end Policy

end RoleAccess
