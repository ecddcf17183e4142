import RoleAccess.Proofs.Records
import RoleAccess.Proofs.UnicodeTexts
import RoleAccess.Proofs.Updates
set_option autoImplicit false

/-! # Ids are current

The fingerprint that a policy knows is the one of the rules and ownership fields that it has
now: calls that change either of them forget it, and those that compute it change nothing
else. The record of an audited check is therefore complete, names the policy as it was at
the check, and holds the ruling that the check answers.
-/

namespace RoleAccess

namespace Policy

/-- A fingerprint that is known is the current one. -/
def IsFresh (policy : Policy) : Prop := ∀ id, policy.id = some id → policy.fingerprint = .ok id

variable {policy : Policy}

/-! ## Fingerprints of reachable policies -/

/-- A fingerprint that there is is known afterwards, and nothing else is changed. -/
theorem IsFresh.currentId (fresh : policy.IsFresh) {id : Text}
    (computed : policy.fingerprint = .ok id) :
    policy.currentId.result = .ok id ∧
      policy.currentId.policy = { policy with id := some id } := by
  unfold Policy.currentId
  cases known : policy.id with
  | some found =>
      obtain rfl : found = id := Except.ok.inj ((fresh found known).symm.trans computed)
      refine ⟨rfl, ?_⟩
      show policy = { policy with id := some found }
      rw [← known]
  | none =>
      rw [computed]
      exact ⟨rfl, rfl⟩

theorem IsFresh.exists_currentId (fresh : policy.IsFresh) (unicode : policy.IsUnicode) :
    ∃ id, policy.currentId.result = .ok id ∧
      policy.currentId.policy = { policy with id := some id } := by
  obtain ⟨id, computed⟩ := unicode.exists_fingerprint
  exact ⟨id, fresh.currentId computed⟩

/-- Without a fingerprint nothing is changed. -/
theorem IsFresh.currentId_of_error (fresh : policy.IsFresh) {fault : EncodingFault}
    (failed : policy.fingerprint = .error fault) :
    policy.currentId = policy.answer (.error (.encoding fault)) := by
  unfold Policy.currentId
  cases known : policy.id with
  | some found => cases (fresh found known).symm.trans failed
  | none => rw [failed]

theorem isFresh_of_none (unknown : policy.id = none) : policy.IsFresh := by
  intro id known
  rw [unknown] at known
  cases known

/-- What a call makes of a policy whose fingerprint is current is such a policy again. -/
theorem IsFresh.successor (fresh : policy.IsFresh) (next : Policy)
    (successor : policy.Successor next) : next.IsFresh := by
  cases successor with
  | kept lastAudit => exact fresh
  | identified lastAudit =>
      obtain ⟨-, id, computed⟩ | ⟨-, fault, failed⟩ := policy.fingerprint_cases
      · rw [(fresh.currentId computed).2]
        intro found known
        cases known
        exact computed
      · rw [fresh.currentId_of_error failed]
        exact fresh
  | ruled book defaults => exact isFresh_of_none rfl
  | owned model field => exact isFresh_of_none rfl

theorem Reachable.isFresh (reachable : policy.Reachable) : policy.IsFresh :=
  Reachable.invariant (fun _ => isFresh_of_none rfl)
    (fun _ next fresh successor => fresh.successor next successor) policy reachable

/-! ## Records of checks -/

/-- The record of an audited check names the current policy. -/
theorem IsFresh.openTrail (fresh : policy.IsFresh) (query : Query) (audit : Value)
    (audited : policy.audits audit = true) {id : Text} (computed : policy.fingerprint = .ok id) :
    (policy.openTrail query audit).policy = { policy with id := some id } ∧
      (policy.openTrail query audit).result =
        .ok (.kept { id := .str id, kind := query.kind, args := query.given }) := by
  obtain ⟨result, identified⟩ := fresh.currentId computed
  rw [Policy.openTrail, if_pos audited, Outcome.map, result]
  exact ⟨identified, rfl⟩

/-- No record is opened for an audited check of a policy without a fingerprint. -/
theorem IsFresh.openTrail_of_error (fresh : policy.IsFresh) (query : Query) (audit : Value)
    (audited : policy.audits audit = true) {fault : EncodingFault}
    (failed : policy.fingerprint = .error fault) :
    policy.openTrail query audit = policy.answer (.error (.encoding fault)) := by
  rw [Policy.openTrail, if_pos audited, fresh.currentId_of_error failed]
  rfl

/-- What a check answers agrees with its record, if it is audited, and the record names the
policy that the query was checked by. -/
structure Attests (policy : Policy) (query : Query) (audit : Value) (checked : Checked) :
    Prop where
  /-- No record is kept if the check is not audited. -/
  unaudited : policy.audits audit = false → checked.trail = .off
  /-- The record of an audited check is complete and holds what is answered. -/
  audited : policy.audits audit = true → ∃ record id, checked.trail = .kept record ∧
    policy.fingerprint = .ok id ∧ record.Reports (.str id) query checked.ruling

theorem IsFresh.attests (fresh : policy.IsFresh) (query : Query) (audit : Value)
    (checked : Checked) (passed : (policy.check query audit).result = .ok checked) :
    policy.Attests query audit checked := by
  unfold check at passed
  split at passed
  · cases passed
  · obtain ⟨trail, opened, answered⟩ := (Outcome.result_andThen_eq_ok_iff _ _ _).mp passed
    obtain ⟨ruling, ruled, rfl⟩ := (map_eq_ok_iff _ _ _).mp answered
    constructor
    case unaudited =>
      intro unaudited
      rw [Policy.openTrail, if_neg (by simp [unaudited])] at opened
      cases opened
      exact Rulebook.fst_rule_off _ _ _ query
    case audited =>
      intro audited
      obtain ⟨id, computed⟩ : ∃ id, policy.fingerprint = .ok id := by
        obtain ⟨-, identified⟩ | ⟨-, fault, failed⟩ := policy.fingerprint_cases
        · exact identified
        · rw [fresh.openTrail_of_error query audit audited failed] at opened
          cases opened
      have result := (fresh.openTrail query audit audited computed).2
      rw [opened] at result
      cases result
      have awaits : Record.Awaits { id := .str id, kind := query.kind, args := query.given }
          (.str id) query := ⟨rfl, rfl, rfl, rfl, rfl⟩
      obtain ⟨record, kept, reports⟩ :=
        Rulebook.rule_reports _ _ _ _ _ query awaits ruling ruled
      exact ⟨record, id, kept, computed, reports⟩

/-- **Ids are current, and records name the policy they were decided under.** In every
reachable policy, an id that is known is the fingerprint of the rules and ownership fields in
force, and what a check answers is what its record reports under this fingerprint. -/
theorem attests_of_reachable (policy : Policy) (reachable : policy.Reachable) :
    (policy.id = none ∨ ∃ id, policy.id = some id ∧
      Fingerprint.compute policy.book.toValue (.ofTexts policy.ownerFields) = .ok id) ∧
      ∀ query audit checked, (policy.check query audit).result = .ok checked →
        policy.Attests query audit checked := by
  have fresh := reachable.isFresh
  refine ⟨?_, fresh.attests⟩
  cases known : policy.id with
  | none => exact Or.inl rfl
  | some id => exact Or.inr ⟨id, rfl, fresh id known⟩

/-- A policy that has told its id knows it, and a check that denies a post is audited: its
record is complete and holds the denial under this id. -/
theorem attests_of_reachable_denied_post :
    let denial := Value.texts ["all", "model:post:read:any:0"]
    let session := Value.obj [("sessionId", .str "s1"), ("roles", Value.texts ["user"])]
    let query : Query :=
      .model { model := .str "post", action := .str "read", scope := .str "any", session }
    ∃ start events, create none .null .null (.list [denial]) = .ok (start, events) ∧
      let policy := (start.step .identify).policy
      policy.Reachable ∧
        ∃ id, policy.id = some id ∧
          Fingerprint.compute policy.book.toValue (.ofTexts policy.ownerFields) = .ok id ∧
          ∃ checked record, (policy.check query .null).result = .ok checked ∧
            checked.ruling = .decision false ∧ checked.trail = .kept record ∧
            record.id = .str id ∧ record.decision = .bool false ∧ record.complete = true := by
  intro denial session query
  refine ⟨_, _, rfl, ?_⟩
  intro policy
  have made := Reachable.created none .null .null (.list [denial]) _ _ rfl
  have reachable : policy.Reachable := .called _ .identify made
  obtain ⟨known, attests⟩ := attests_of_reachable policy reachable
  -- the digest itself is left alone: all that counts is that there is one
  obtain ⟨id, -, identified⟩ := made.isFresh.exists_currentId ⟨by decide +kernel, nofun⟩
  have audited : policy.audits .null = true := by
    rw [show policy = _ from identified]
    rfl
  have checked : ∃ checked, (policy.check query .null).result = .ok checked ∧
      checked.ruling = .decision false := by
    rw [show policy = _ from identified]
    exact ⟨_, rfl, rfl⟩
  obtain ⟨checked, passed, denied⟩ := checked
  obtain ⟨record, id', kept, computed', reports⟩ :=
    (attests query .null checked passed).audited audited
  obtain unknown | ⟨id, known, computed⟩ := known
  · rw [show policy = _ from identified] at unknown
    cases unknown
  · obtain rfl : id' = id := Except.ok.inj (computed'.symm.trans computed)
    have decision : record.decision = .bool false := by rw [reports.decision, denied]; rfl
    exact ⟨reachable, id', known, computed, checked, record, passed, denied, kept, reports.id,
      decision, reports.complete⟩

end Policy

end RoleAccess
