import RoleAccess.Proofs.Operations
import RoleAccess.Proofs.Reading
set_option autoImplicit false

/-! # Policies follow a log

What a policy holds after a run is told by a log of the calls that succeeded: the rules in
force, those among them that stay when rules are replaced, the ownership fields, and the
trail of the last query that was decided. However the rules came about, the rulebook is the
one that the rules in the log make when they are put into an empty one in order.

The invariant is `Policy.Follows`. A call that succeeds changes policy and log alike, and a
call that fails changes neither, apart from the fingerprint, which the log does not hold.
-/

namespace RoleAccess

/-- What the calls of a run leave, apart from what is compiled or computed from it. -/
structure RuleLog where
  /-- The rules in force, in the order that they were given in. -/
  rules : List Value := []
  /-- The rules that stay when rules are replaced. -/
  defaults : List Value := []
  ownerFields : Table Text := []
  lastAudit : Option Trail := none

namespace RuleLog

/-- Rules are added, and kept as default rules if that is asked for. -/
def append (log : RuleLog) (added : List Value) (isDefault : Value) : RuleLog :=
  { log with
    rules := log.rules ++ added
    defaults := if isDefault.truthy then log.defaults ++ added else log.defaults }

/-- The log of a new policy; the rules that it is made with are default rules. -/
def initial : Value → RuleLog
  | .null => {}
  | rules => ({} : RuleLog).append (rules.items?.getD []) (.bool true)

/-- What a call leaves that succeeds on a policy. -/
def record (log : RuleLog) (policy : Policy) : Call → RuleLog
  | .addRule rule isDefault => log.append [rule] isDefault
  | .addRules rules isDefault => log.append (rules.items?.getD []) isDefault
  | .replaceDynamic rules => { log with rules := log.defaults ++ rules.items?.getD [] }
  | .setOwnerField (.str model) (.str field) =>
      { log with ownerFields := log.ownerFields.put model field }
  | .decide query audit =>
      { log with lastAudit := (policy.check query audit).result.toOption.map Checked.trail }
  | _ => log

/-- The log after a call on a policy; a call that fails leaves nothing. -/
def after (log : RuleLog) (policy : Policy) (call : Call) : RuleLog :=
  match (policy.step call).result with
  | .error _ => log
  | .ok _ => log.record policy call

/-- The log after a run of calls. -/
def run (log : RuleLog) (policy : Policy) : List Call → RuleLog
  | [] => log
  | call :: rest => (log.after policy call).run (policy.step call).policy rest

end RuleLog

/-- A policy holds what a log says. -/
structure Policy.Follows (policy : Policy) (log : RuleLog) : Prop where
  accepted : (Rulebook.enactAll {} log.rules).fault = none
  book : policy.book = (Rulebook.enactAll {} log.rules).book
  defaultsRead : log.defaults.map Rule.parse = policy.defaults.map .ok
  defaultsAccepted : (Rulebook.enactAll {} log.defaults).fault = none
  ownerFields : policy.ownerFields = log.ownerFields
  lastAudit : policy.lastAudit = log.lastAudit

namespace Policy.Follows

variable {policy : Policy} {log : RuleLog}

/-- A log does not tell the fingerprint. -/
theorem withId (follows : policy.Follows log) (id : Option Text) :
    { policy with id }.Follows log :=
  ⟨follows.accepted, follows.book, follows.defaultsRead, follows.defaultsAccepted,
    follows.ownerFields, follows.lastAudit⟩

/-- The default rules of a policy are written like those of its log. -/
theorem defaultsValue (follows : policy.Follows log) :
    policy.defaultsValue = .list (log.defaults.map fun rule => .list (rule.items?.getD [])) := by
  rw [Policy.defaultsValue, Rule.map_parts_of_read _ _ follows.defaultsRead]

/-! ## One call -/

theorem addRules (follows : policy.Follows log) (rules isDefault : Value)
    (added : (policy.addRules rules isDefault).result = .ok ()) :
    (policy.addRules rules isDefault).policy.Follows
      (log.append (rules.items?.getD []) isDefault) := by
  rw [policy.result_addRules, Policy.updateResult_eq_ok_iff] at added
  obtain ⟨items, given, accepted⟩ := added
  -- the items are accepted by the rulebook of the policy and after the default rules alike
  have anywhere (book : Rulebook) : (book.enactAll items).fault = none := by
    rw [Rulebook.fault_enactAll, accepted]
  have allRules := Rulebook.enactAll_append {} log.rules items follows.accepted
  rw [policy.policy_addRules rules isDefault items given accepted, given, Option.getD_some]
  constructor
  case accepted =>
    rw [RuleLog.append, allRules]
    exact anywhere _
  case book => rw [RuleLog.append, allRules, follows.book]
  case defaultsRead =>
    have enacted := Rulebook.parse_enacted policy.book items (anywhere _)
    simp only [RuleLog.append]
    split
    · rw [List.map_append, List.map_append, follows.defaultsRead, enacted]
    · exact follows.defaultsRead
  case defaultsAccepted =>
    simp only [RuleLog.append]
    split
    · rw [Rulebook.enactAll_append {} log.defaults items follows.defaultsAccepted]
      exact anywhere _
    · exact follows.defaultsAccepted
  case ownerFields => exact follows.ownerFields
  case lastAudit => exact follows.lastAudit

theorem replaceDynamic (follows : policy.Follows log) (rules : Value)
    (replaced : (policy.replaceDynamic rules).result = .ok ()) :
    (policy.replaceDynamic rules).policy.Follows
      { log with rules := log.defaults ++ rules.items?.getD [] } := by
  rw [policy.result_replaceDynamic log.defaults follows.defaultsRead follows.defaultsAccepted,
    Policy.updateResult_eq_ok_iff] at replaced
  obtain ⟨items, given, accepted⟩ := replaced
  rw [policy.policy_replaceDynamic log.defaults follows.defaultsRead follows.defaultsAccepted
    rules items given accepted, given, Option.getD_some]
  constructor
  case accepted =>
    rw [Rulebook.enactAll_append {} log.defaults items follows.defaultsAccepted]
    exact (Rulebook.fault_enactAll _ items).trans accepted
  case book => rfl
  case defaultsRead => exact follows.defaultsRead
  case defaultsAccepted => exact follows.defaultsAccepted
  case ownerFields => exact follows.ownerFields
  case lastAudit => exact follows.lastAudit

/-- A call takes a policy that follows a log to one that follows the log after the call. -/
theorem step (follows : policy.Follows log) (call : Call) :
    (policy.step call).policy.Follows (log.after policy call) := by
  cases result : (policy.step call).result with
  | error e =>
      -- whatever the call, it has come to no more than a fingerprint
      obtain ⟨id, same⟩ := policy.step_of_error call e result
      rw [RuleLog.after, result, same]
      exact follows.withId id
  | ok answer =>
      rw [RuleLog.after, result]
      cases call with
      | addRule rule isDefault =>
          obtain ⟨_, added, -⟩ := (map_eq_ok_iff _ _ _).mp result
          exact follows.addRules (.list [rule]) isDefault added
      | addRules rules isDefault =>
          obtain ⟨_, added, -⟩ := (map_eq_ok_iff _ _ _).mp result
          exact follows.addRules rules isDefault added
      | replaceDynamic rules =>
          obtain ⟨_, replaced, -⟩ := (map_eq_ok_iff _ _ _).mp result
          exact follows.replaceDynamic rules replaced
      | setOwnerField model field =>
          obtain ⟨e, refused⟩ | ⟨name, fieldName, rfl, rfl, put⟩ :=
            policy.setOwnerField_cases model field
          · rw [Policy.step, refused] at result
            cases result
          · rw [Policy.step, put]
            exact { follows with
              ownerFields := congrArg (Table.put name fieldName) follows.ownerFields }
      | ownerField model | sessionRoles session | judgeLevel check => exact follows
      | showRules resource =>
          obtain ⟨id, same⟩ := policy.policy_showRules resource
          exact same ▸ follows.withId id
      | identify =>
          obtain ⟨id, same⟩ := policy.policy_currentId
          exact same ▸ follows.withId id
      | check query audit =>
          obtain ⟨id, same⟩ := policy.policy_check query audit
          exact same ▸ follows.withId id
      | decide query audit =>
          obtain ⟨ruling, decided, -⟩ := (map_eq_ok_iff _ _ _).mp result
          obtain ⟨e, -, failed, -⟩ | ⟨checked, id, passed, -, same⟩ :=
            policy.decide_cases query audit
          · rw [failed] at decided
            cases decided
          · show (policy.decide query audit).policy.Follows
              { log with
                lastAudit := (policy.check query audit).result.toOption.map Checked.trail }
            rw [same, passed]
            exact { follows.withId id with lastAudit := rfl }

/-! ## A run of calls -/

theorem run (follows : policy.Follows log) (calls : List Call) :
    (policy.run calls).Follows (log.run policy calls) := by
  -- each call starts from the policy and the log that the one before leaves
  induction calls generalizing policy log with
  | nil => exact follows
  | cons call rest ih => exact ih (follows.step call)

/-- A policy without rules follows the empty log. -/
theorem empty (config : Config) : ({ config } : Policy).Follows {} :=
  ⟨rfl, rfl, rfl, rfl, rfl, rfl⟩

/-- A new policy follows the log of the rules that it is made with. -/
theorem create (settings : Option (Table Value)) (strict audit rules : Value) (start : Policy)
    (events : List Event)
    (created : Policy.create settings strict audit rules = .ok (start, events)) :
    start.Follows (.initial rules) := by
  obtain ⟨config, ⟨rfl, rfl⟩ | ⟨given, added, rfl⟩⟩ :=
    Policy.create_cases settings strict audit rules start events created
  · exact empty config
  · have appended := (empty config).addRules rules (.bool true) added
    cases rules with
    | null => exact absurd rfl given
    | _ => exact appended

end Policy.Follows

/-- **Policies follow a log.** Whatever calls are made on a new policy, its rulebook is the one
that the rules in force make in an empty one, its default rules, ownership fields and last
audit are those of the log, and no rule in force is rejected. -/
theorem Policy.run_follows (settings : Option (Table Value)) (strict audit rules : Value)
    (start : Policy) (events : List Event)
    (created : Policy.create settings strict audit rules = .ok (start, events))
    (calls : List Call) :
    let policy := start.run calls
    let log := (RuleLog.initial rules).run start calls
    (Rulebook.enactAll {} log.rules).fault = none ∧
      policy.book = (Rulebook.enactAll {} log.rules).book ∧
      policy.defaultsValue = .list (log.defaults.map fun rule => .list (rule.items?.getD [])) ∧
      policy.ownerFields = log.ownerFields ∧ policy.lastAudit = log.lastAudit := by
  intro policy log
  have follows := (Follows.create settings strict audit rules start events created).run calls
  exact ⟨follows.accepted, follows.book, follows.defaultsValue, follows.ownerFields,
    follows.lastAudit⟩

/-- A replacement forgets the readers, a rejected one leaves no trace, and the blanket denial
that the policy is made with stays. -/
theorem Policy.run_follows_replacements :
    let blanket := Value.texts ["all", "model:0"]
    let readers := Value.texts ["user", "model:post:read:any:1"]
    let routes := Value.texts ["user", "route:1"]
    let calls : List Call :=
      [.addRule readers .null, .replaceDynamic (.list [routes]),
        .setOwnerField (.str "post") (.str "userId"),
        .replaceDynamic (.list [readers, Value.texts ["user", "route"]])]
    ∃ start events, Policy.create none .null .null (.list [blanket]) = .ok (start, events) ∧
      (start.run calls).book = (Rulebook.enactAll {} [blanket, routes]).book ∧
      (start.run calls).defaultsValue = .list [blanket] ∧
      (start.run calls).ownerFields = ([("post", "userId")] : Table Text) := by
  intro blanket readers routes calls
  refine ⟨_, _, rfl, ?_⟩
  obtain ⟨-, book, defaults, fields, -⟩ :=
    run_follows none .null .null (.list [blanket]) _ _ rfl calls
  exact ⟨book, defaults, fields⟩

end RoleAccess
