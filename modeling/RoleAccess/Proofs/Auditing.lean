import RoleAccess.Proofs.CurrentIds
import RoleAccess.Proofs.Rulings
set_option autoImplicit false

/-! # What auditing changes of an outcome

A check with an audit opens a record, for which it has to tell the id of the policy, and
leaves everything it finds there. A new record takes all that is left on it, so the check comes
to the same ruling, or to the same failure, as one without an audit, as long as the id can be
told. It can unless the rules or the ownership fields hold a surrogate; then a valid check with
an audit fails, while one without is ruled on. Of the policy, nothing is different but that the
id may be known afterwards.
-/

namespace RoleAccess

namespace Policy

variable {policy : Policy}

/-! ## Telling the id -/

/-- What a policy is once its id may have been told: it knows the fingerprint of its rules and
ownership fields then, and is otherwise the same. -/
inductive Identified (policy : Policy) : Policy → Prop
  | unchanged : Identified policy policy
  | told (id : Text) (unknown : policy.id = none)
      (current : Fingerprint.compute policy.book.toValue (.ofTexts policy.ownerFields) = .ok id) :
      Identified policy { policy with id := some id }

theorem Identified.book_eq {next : Policy} (identified : policy.Identified next) :
    next.book = policy.book := by
  cases identified <;> rfl

theorem Identified.ownership_eq {next : Policy} (identified : policy.Identified next) :
    next.ownership = policy.ownership := by
  cases identified <;> rfl

theorem IsFresh.identified_currentId (fresh : policy.IsFresh) :
    policy.Identified policy.currentId.policy := by
  obtain ⟨-, id, current⟩ | ⟨-, fault, failed⟩ := policy.fingerprint_cases
  · rw [(fresh.currentId current).2]
    cases known : policy.id with
    | none => exact .told id known current
    | some found =>
        -- an id that is known is the one that is told
        obtain rfl : found = id := Except.ok.inj ((fresh found known).symm.trans current)
        rw [← known]
        exact .unchanged
  · rw [fresh.currentId_of_error failed]
    exact .unchanged

/-! ## Checks without regard to their audit -/

/-- There is an id for the record of a check that is audited. -/
def CanRecord (policy : Policy) (audit : Value) : Prop :=
  policy.audits audit = true → policy.IsUnicode

theorem canRecord_of_unaudited {audit : Value} (unaudited : policy.audits audit = false) :
    policy.CanRecord audit := by
  intro audited
  rw [unaudited] at audited
  cases audited

/-- What a policy rules on a query that it is asked to check. -/
def rulingOn (policy : Policy) (query : Query) : Except Failure Ruling :=
  match policy.validate query with
  | .error e => .error (.request e)
  | .ok _ => policy.book.ruling query.roles policy.ownership query

theorem ofCaller_of_rulingOn (query : Query) (e : Failure)
    (failed : policy.rulingOn query = .error e) : e.OfCaller := by
  unfold rulingOn at failed
  split at failed
  · cases failed
    trivial
  · exact policy.book.ofCaller_of_ruling _ _ query e failed

/-- A trail can be opened for a check if there is an id for its record, and takes its answers. -/
theorem IsFresh.opens (fresh : policy.IsFresh) (query : Query) {audit : Value}
    (can : policy.CanRecord audit) :
    ∃ trail, (policy.openTrail query audit).result = .ok trail ∧ trail.Takes query ∧
      policy.Identified (policy.openTrail query audit).policy := by
  cases audits : policy.audits audit with
  | false =>
      rw [Policy.openTrail, if_neg (by simp [audits])]
      exact ⟨.off, rfl, Trail.takes_off query, .unchanged⟩
  | true =>
      obtain ⟨id, computed⟩ := (can audits).exists_fingerprint
      refine ⟨_, (fresh.openTrail query audit audits computed).2, Trail.takes_kept _ query _, ?_⟩
      rw [Policy.openTrail, if_pos audits]
      exact fresh.identified_currentId

theorem IsFresh.ruling_check (fresh : policy.IsFresh) (query : Query) {audit : Value}
    (can : policy.CanRecord audit) :
    (policy.check query audit).result.map Checked.ruling = policy.rulingOn query := by
  unfold check rulingOn
  cases policy.validate query with
  | error e => rfl
  | ok _ =>
      obtain ⟨trail, opened, takes, identified⟩ := fresh.opens query can
      simp only [Outcome.result_andThen, opened, bind, Except.bind, ruleOn, identified.book_eq,
        identified.ownership_eq]
      rw [← policy.book.snd_rule query.roles policy.ownership query takes]
      cases (policy.book.rule policy.ownership trail query.roles query).2 <;> rfl

/-- Without an id for its record, a valid check fails before anything is ruled. -/
theorem IsFresh.check_of_surrogates (fresh : policy.IsFresh) (query : Query) (audit : Value)
    (valid : policy.validate query = .ok ()) (cannot : ¬policy.CanRecord audit) :
    ∃ fault, policy.fingerprint = .error (.surrogates fault) ∧
      policy.check query audit = policy.answer (.error (.encoding (.surrogates fault))) := by
  obtain ⟨audited, surrogates⟩ := Classical.not_imp.mp cannot
  obtain ⟨fault, failed⟩ := surrogates_of_not_isUnicode surrogates
  refine ⟨fault, failed, ?_⟩
  rw [check, valid]
  show (policy.openTrail query audit).andThen _ = _
  rw [fresh.openTrail_of_error query audit audited failed]
  rfl

theorem IsFresh.identified_check (fresh : policy.IsFresh) (query : Query) (audit : Value) :
    policy.Identified (policy.check query audit).policy := by
  obtain same | same := policy.policy_check_eq query audit
  · rw [same]
    exact .unchanged
  · rw [same]
    exact fresh.identified_currentId

/-- A refused query leaves nothing behind. -/
theorem check_of_refused (query : Query) (audit : Value) (fault : RequestFault)
    (refused : policy.validate query = .error fault) :
    policy.check query audit = policy.answer (.error (.request fault)) := by
  rw [check, refused]

/-- A check without an audit does not ask for the id. -/
theorem policy_check_of_unaudited (query : Query) (audit : Value)
    (unaudited : policy.audits audit = false) : (policy.check query audit).policy = policy := by
  unfold check
  split
  · rfl
  · rw [Outcome.policy_andThen _ _ fun _ => rfl, Policy.openTrail, if_neg (by simp [unaudited])]
    rfl

/-- A check is never told that a record is complete. -/
theorem IsFresh.cls_check_ne (fresh : policy.IsFresh) (query : Query) (audit : Value)
    (e : Failure) (failed : (policy.check query audit).result = .error e) :
    e.report?.map ErrorReport.cls ≠ some .invalidAuditState := by
  by_cases can : policy.CanRecord audit
  · have ruled := fresh.ruling_check query can
    rw [failed] at ruled
    exact (ofCaller_of_rulingOn query e ruled.symm).cls_ne
  · cases valid : policy.validate query with
    | error fault =>
        rw [policy.check_of_refused query audit fault valid] at failed
        cases failed
        exact Failure.OfCaller.cls_ne trivial
    | ok _ =>
        obtain ⟨fault, -, refused⟩ := fresh.check_of_surrogates query audit valid can
        rw [refused] at failed
        cases failed
        nofun

/-- **What auditing changes of an outcome.** A check that is audited comes to the same ruling,
or to the same failure, as one that is not, if it is refused as invalid or if neither the rules
nor the ownership fields hold a surrogate, and else never: then it fails for want of an id and
changes nothing. The check that is not audited leaves the policy as it is; after the other, at
most the current id is known. No check fails because of a record. -/
theorem check_audited_eq_unaudited_iff (policy : Policy) (reachable : policy.Reachable)
    (query : Query) (on off : Value) (audited : policy.audits on = true)
    (unaudited : policy.audits off = false) :
    ((policy.check query on).result.map Checked.ruling =
          (policy.check query off).result.map Checked.ruling ↔
        (∃ fault, policy.validate query = .error fault) ∨ policy.IsUnicode) ∧
      (policy.validate query = .ok () → ¬policy.IsUnicode → ∃ fault,
        policy.fingerprint = .error (.surrogates fault) ∧
          policy.check query on = policy.answer (.error (.encoding (.surrogates fault)))) ∧
      (policy.check query off).policy = policy ∧
      policy.Identified (policy.check query on).policy ∧
      ∀ audit e, (policy.check query audit).result = .error e →
        e.report?.map ErrorReport.cls ≠ some .invalidAuditState := by
  have fresh := reachable.isFresh
  have ruled := fresh.ruling_check query (canRecord_of_unaudited unaudited)
  have fails (valid : policy.validate query = .ok ()) (surrogates : ¬policy.IsUnicode) :=
    fresh.check_of_surrogates query on valid fun can => surrogates (can audited)
  refine ⟨⟨?same, ?alike⟩, fails, ?kept, ?identified, ?unrefused⟩
  case same =>
    intro same
    by_cases unicode : policy.IsUnicode
    · exact Or.inr unicode
    · cases valid : policy.validate query with
      | error fault => exact Or.inl ⟨fault, rfl⟩
      | ok _ =>
          -- what is ruled without an audit never fails for want of an id
          obtain ⟨fault, -, failed⟩ := fails valid unicode
          rw [failed, ruled] at same
          exact (ofCaller_of_rulingOn query _ same.symm).elim
  case alike =>
    rintro (⟨fault, refused⟩ | unicode)
    · rw [policy.check_of_refused query on fault refused,
        policy.check_of_refused query off fault refused]
    · rw [ruled, fresh.ruling_check query fun _ => unicode]
  case kept => exact policy_check_of_unaudited query off unaudited
  case identified => exact fresh.identified_check query on
  case unrefused => exact fresh.cls_check_ne query

/-- Users may read their own posts, and are told so whether the check is audited or not. The
policy has not told its id before, and does so for the audit only. -/
theorem check_audited_eq_unaudited_iff_own_posts :
    let rules := Value.list
      [Value.texts ["all", "model:0"], Value.texts ["user", "model:post:read:own:1"]]
    let session := Value.obj [("sessionId", .str "s1"), ("roles", Value.texts ["user"])]
    let query : Query := .modelScope { model := .str "post", action := .str "read", session }
    ∃ policy events, create none .null .null rules = .ok (policy, events) ∧
      policy.Reachable ∧ policy.audits (.bool true) = true ∧
        policy.audits (.bool false) = false ∧ policy.id = none ∧
        let audited := policy.check query (.bool true)
        let unaudited := policy.check query (.bool false)
        audited.result.map Checked.ruling = .ok (.widest (some .own)) ∧
          unaudited.result.map Checked.ruling = .ok (.widest (some .own)) ∧
          unaudited.policy = policy ∧ policy.Identified audited.policy ∧
          ∀ audit e, (policy.check query audit).result = .error e →
            e.report?.map ErrorReport.cls ≠ some .invalidAuditState := by
  intro rules session query
  refine ⟨_, _, rfl, ?_⟩
  have reachable := Reachable.created none .null .null rules _ _ rfl
  refine ⟨reachable, rfl, rfl, rfl, ?_⟩
  obtain ⟨law, -, kept, identified, unrefused⟩ :=
    check_audited_eq_unaudited_iff _ reachable query (.bool true) (.bool false) rfl rfl
  have same := law.mpr (Or.inr ⟨by decide +kernel, nofun⟩)
  -- the ruling is computed where no digest is
  exact ⟨same.trans rfl, rfl, kept, identified, unrefused⟩

/-- A surrogate for the name of a model is enough: a check without an audit lets posts be
read, where there are no rules, and the same check with an audit fails. -/
theorem check_audited_ne_unaudited_surrogate :
    let surrogate : Text := .ofList [{ number := 0xd800, inRange := by decide }]
    let session := Value.obj [("sessionId", .str "s1"), ("roles", Value.texts ["user"])]
    let query : Query :=
      .model { model := .str "post", action := .str "read", scope := .str "any", session }
    ∃ start events, create none .null .null .null = .ok (start, events) ∧
      let policy := (start.step (.setOwnerField (.str surrogate) (.str "x"))).policy
      policy.Reachable ∧ policy.audits (.bool true) = true ∧
        policy.audits (.bool false) = false ∧
        (policy.check query (.bool false)).result.map Checked.ruling = .ok (.decision true) ∧
        ∃ fault, (policy.check query (.bool true)).result =
          .error (.encoding (.surrogates fault)) := by
  intro surrogate session query
  refine ⟨_, _, rfl, ?_⟩
  intro policy
  have made := Reachable.created none .null .null .null _ _ rfl
  have reachable : policy.Reachable := .called _ (.setOwnerField (.str surrogate) (.str "x")) made
  refine ⟨reachable, rfl, rfl, rfl, ?_⟩
  have cannot : ¬policy.CanRecord (.bool true) := by
    intro can
    exact absurd ((can rfl).ownerFields (surrogate, "x") List.mem_cons_self).1 (by decide)
  obtain ⟨fault, -, failed⟩ :=
    reachable.isFresh.check_of_surrogates query (.bool true) rfl cannot
  exact ⟨fault, congrArg Outcome.result failed⟩

end Policy

end RoleAccess
