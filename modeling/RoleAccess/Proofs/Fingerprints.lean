import RoleAccess.Proofs.CurrentIds
import RoleAccess.Proofs.LastWrites
import RoleAccess.Proofs.SameDecisions
set_option autoImplicit false

/-! # Fingerprints identify what rules say

The text that is digested for a fingerprint tells two things: the ownership fields as a map,
and the decision that the rules give for each role at each address. It tells nothing else,
so the order in which rules were given does not matter where it does not change a decision.
Two policies with the same text and the same configuration answer every check alike.

In one direction, every decision is read off the document in its place, and the canonical
text determines the document up to the order of fields. In the other, rulebooks of rules are
told by their decisions. Nothing is used of the digest but that it is a function.
-/

namespace RoleAccess

/-! ## Documents and their normal forms -/

/-- Going down into a value by names does not see the order of fields. -/
theorem Value.at?_normal (path : List Text) (value : Value) :
    value.normal.at? path = (value.at? path).map Value.normal := by
  induction path generalizing value with
  | nil => rfl
  | cons name rest ih =>
      cases value with
      | obj fields =>
          rw [normal_obj, at?_cons_obj, at?_cons_obj, Table.find?_mapValues,
            Canonical.find?_sortMembers]
          cases Table.find? name fields with
          | none => rfl
          | some below => exact ih below
      | _ => rfl

namespace Fingerprint

variable (rules : Value) (names : Table Text)

theorem at?_payload_rules (path : List Text) :
    (payload rules (.ofTexts names)).at? ("rules" :: path) = rules.at? path := rfl

theorem at?_payload_names (model : Text) :
    (payload rules (.ofTexts names)).at? ["accessIdNames", model] =
      (names.find? model).map Value.str := by
  show ((names.mapValues Value.str).find? model).bind (Value.at? []) = _
  rw [Table.find?_mapValues]
  cases names.find? model <;> rfl

/-- Ownership fields without repeated models are the same value if they are the same map. -/
theorem normal_ofTexts (others : Table Text) (distinct : names.keys.Nodup)
    (distinct' : others.keys.Nodup) (same : ∀ model, names.find? model = others.find? model) :
    (Value.ofTexts names).normal = (Value.ofTexts others).normal := by
  have keys (table : Table Text) : (table.mapValues Value.str).keys = table.keys := by
    rw [Table.keys, Table.mapValues, List.map_map]
    rfl
  rw [Value.ofTexts, Value.ofTexts, Value.normal_obj, Value.normal_obj,
    Canonical.sortMembers_congr (names.mapValues Value.str) (others.mapValues Value.str)]
  · rw [keys]
    exact distinct
  · rw [keys]
    exact distinct'
  · intro model
    rw [Table.find?_mapValues, Table.find?_mapValues, same]

theorem normal_payload (others : Table Text)
    (same : (Value.ofTexts names).normal = (Value.ofTexts others).normal) :
    (payload rules (.ofTexts names)).normal = (payload rules (.ofTexts others)).normal := by
  rw [payload, payload, Value.normal, Value.normal]
  simp only [Value.normalFields, same]

/-- The texts of two rulebooks with ownership fields are the same if the normal forms are. -/
theorem text_eq_iff (book other : Rulebook) (names others : Table Text) :
    text book.toValue (.ofTexts names) = text other.toValue (.ofTexts others) ↔
      (payload book.toValue (.ofTexts names)).normal =
        (payload other.toValue (.ofTexts others)).normal :=
  Canonical.text_eq_iff _ _ (isPlain_payload book names) (isPlain_payload other others)

end Fingerprint

/-! ## What the text tells -/

namespace Rulebook

variable (book other : Rulebook) (names others : Table Text)
  (same : Fingerprint.text book.toValue (.ofTexts names) =
    Fingerprint.text other.toValue (.ofTexts others))

include same

theorem at?_payload_of_text (path : List Text) :
    ((Fingerprint.payload book.toValue (.ofTexts names)).at? path).map Value.normal =
      ((Fingerprint.payload other.toValue (.ofTexts others)).at? path).map Value.normal := by
  rw [← Value.at?_normal, ← Value.at?_normal,
    (Fingerprint.text_eq_iff book other names others).mp same]

/-- The text tells every decision. -/
theorem decisionAt_of_text (address : Address) (role : Text) :
    book.decisionAt address role = other.decisionAt address role := by
  have shown := book.at?_payload_of_text other names others same
    ("rules" :: (address.place ++ (["allow", role] : List Text)))
  rw [Fingerprint.at?_payload_rules, Fingerprint.at?_payload_rules, at?_toValue,
    at?_toValue, Option.map_map, Option.map_map] at shown
  refine Option.map_injective (fun a b h => ?_) shown
  exact Value.bool.inj h

/-- The text tells every ownership field. -/
theorem find?_of_text (model : Text) : names.find? model = others.find? model := by
  have shown := book.at?_payload_of_text other names others same ["accessIdNames", model]
  rw [Fingerprint.at?_payload_names, Fingerprint.at?_payload_names, Option.map_map,
    Option.map_map] at shown
  refine Option.map_injective (fun a b h => ?_) shown
  exact Value.str.inj h

end Rulebook

/-- Valid rules with the same last decisions make the same rulebook. -/
theorem Rulebook.book_eq_of_lastDecision {values values' : List Value} {rules rules' : List Rule}
    (valid : ReadAs values rules) (valid' : ReadAs values' rules')
    (same : ∀ address role, lastDecision rules address role = lastDecision rules' address role) :
    (enactAll {} values).book = (enactAll {} values').book := by
  refine enactAll_ext values values' fun address role => ?_
  rw [decisionAt_of_readAs values rules valid, decisionAt_of_readAs values' rules' valid', same]

/-- **The text tells the decisions and the ownership fields, and nothing else.** -/
theorem Fingerprint.text_enactAll_eq_iff (values values' : List Value) (rules rules' : List Rule)
    (valid : ReadAs values rules) (valid' : ReadAs values' rules') (names names' : Table Text)
    (distinct : names.keys.Nodup) (distinct' : names'.keys.Nodup) :
    text (Rulebook.enactAll {} values).book.toValue (.ofTexts names) =
        text (Rulebook.enactAll {} values').book.toValue (.ofTexts names') ↔
      (∀ model, names.find? model = names'.find? model) ∧
        ∀ address role, lastDecision rules address role = lastDecision rules' address role := by
  constructor
  · intro same
    refine ⟨Rulebook.find?_of_text _ _ names names' same, fun address role => ?_⟩
    rw [← Rulebook.decisionAt_of_readAs values rules valid,
      ← Rulebook.decisionAt_of_readAs values' rules' valid']
    exact Rulebook.decisionAt_of_text _ _ names names' same address role
  · rintro ⟨sameNames, sameDecisions⟩
    rw [text_eq_iff, Rulebook.book_eq_of_lastDecision valid valid' sameDecisions]
    exact normal_payload _ names names' (normal_ofTexts names names' distinct distinct' sameNames)

/-! ## Reordered rules -/

/-- The same rules in another order, where the rules that decide for everyone at an address
keep theirs. -/
structure Reordered (rules others : List Rule) : Prop where
  perm : rules.Perm others
  order : ∀ address, rules.filter (fun rule => rule.Writes address allRole) =
    others.filter fun rule => rule.Writes address allRole

/-- A decision for everyone is told by the rules that decide for everyone at the address. -/
theorem lastDecision_allRole (rules : List Rule) (address : Address) :
    lastDecision rules address allRole =
      (rules.filter fun rule => rule.Writes address allRole).getLast?.map Rule.allow := by
  rw [← List.head?_reverse, ← List.filter_reverse, List.head?_filter]
  rfl

/-- Whatever is decided for another role is an allowance. -/
theorem lastDecision_of_ne_allRole (rules : List Rule)
    (denials : ∀ rule ∈ rules, rule.allow = false → rule.roles = [allRole]) (address : Address)
    (role : Text) (hne : role ≠ allRole) :
    lastDecision rules address role =
      if ∃ rule ∈ rules, rule.Writes address role then some true else none := by
  split
  · next writer =>
      obtain ⟨rule, mem, writes⟩ := writer
      cases decided : lastDecision rules address role with
      | none =>
          have silent := (lastDecision_eq_none_iff rules address role).mp decided
          exact absurd writes (silent rule mem)
      | some allow =>
          obtain ⟨before, last, after, rfl, writes, rfl, -⟩ :=
            (lastDecision_eq_some_iff _ _ _ _).mp decided
          cases denied : last.allow with
          | true => rfl
          | false =>
              have named := writes.2
              rw [denials last (by simp) denied] at named
              exact absurd (List.mem_singleton.mp named) hne
  · next silent =>
      refine (lastDecision_eq_none_iff rules address role).mpr fun rule mem writes => ?_
      exact silent ⟨rule, mem, writes⟩

theorem Reordered.lastDecision_eq {rules others : List Rule} (reordered : Reordered rules others)
    (denials : ∀ rule ∈ rules, rule.allow = false → rule.roles = [allRole]) (address : Address)
    (role : Text) : lastDecision rules address role = lastDecision others address role := by
  by_cases everyone : role = allRole
  · rw [everyone, lastDecision_allRole, lastDecision_allRole, reordered.order address]
  · have members (rule : Rule) : rule ∈ rules ↔ rule ∈ others := reordered.perm.mem_iff
    rw [lastDecision_of_ne_allRole rules denials address role everyone,
      lastDecision_of_ne_allRole others (fun rule mem => denials rule ((members rule).mpr mem))
        address role everyone]
    simp only [members]

theorem ReadAs.denials {values : List Value} {rules : List Rule} (valid : ReadAs values rules) :
    ∀ rule ∈ rules, rule.allow = false → rule.roles = [allRole] := by
  intro rule mem denied
  obtain ⟨value, -, read⟩ : ∃ value ∈ values, Rule.parse value = .ok rule := by
    rw [← List.mem_map, valid.read]
    exact List.mem_map_of_mem mem
  exact (Rule.isWritable_of_parse value rule read).denial denied

theorem Reordered.book_eq {rules others : List Rule} (reordered : Reordered rules others)
    {values values' : List Value} (valid : ReadAs values rules) (valid' : ReadAs values' others) :
    (Rulebook.enactAll {} values).book = (Rulebook.enactAll {} values').book :=
  Rulebook.book_eq_of_lastDecision valid valid' (reordered.lastDecision_eq valid.denials)

/-! ## Policies with the same text -/

namespace Policy

theorem Reachable.sorted_ownerFields {policy : Policy} (reachable : policy.Reachable) :
    policy.ownerFields.Sorted := by
  refine Reachable.invariant (motive := fun policy => policy.ownerFields.Sorted)
    (fun _ => Table.sorted_nil) ?_ policy reachable
  intro policy next sorted successor
  cases successor with
  | kept lastAudit => exact sorted
  | identified lastAudit =>
      obtain ⟨id, identified⟩ := policy.policy_currentId
      rw [identified]
      exact sorted
  | ruled book defaults => exact sorted
  | owned model field => exact sorted.upsert model fun _ => field

/-- Reachable policies with the same text hold the same rulebook and the same ownership
fields. -/
theorem Reachable.eq_of_text {policy other : Policy} (reachable : policy.Reachable)
    (reachable' : other.Reachable)
    (same : Fingerprint.text policy.book.toValue (.ofTexts policy.ownerFields) =
      Fingerprint.text other.book.toValue (.ofTexts other.ownerFields)) :
    policy.book = other.book ∧ policy.ownerFields = other.ownerFields := by
  obtain ⟨log, follows⟩ := reachable.follows
  obtain ⟨log', follows'⟩ := reachable'.follows
  constructor
  · have decisions := Rulebook.decisionAt_of_text _ _ _ _ same
    rw [follows.book, follows'.book] at decisions ⊢
    exact Rulebook.enactAll_ext log.rules log'.rules decisions
  · exact reachable.sorted_ownerFields.ext reachable'.sorted_ownerFields
      (Rulebook.find?_of_text _ _ _ _ same)

section Alike

variable {policy other : Policy} (config : policy.config = other.config)
  (book : policy.book = other.book) (ownerFields : policy.ownerFields = other.ownerFields)
  (fresh : policy.IsFresh) (fresh' : other.IsFresh)

include config book ownerFields fresh fresh'

theorem result_openTrail_congr (query : Query) (audit : Value) :
    (policy.openTrail query audit).result = (other.openTrail query audit).result := by
  have sameId : policy.currentId.result = other.currentId.result := by
    have fingerprints : policy.fingerprint = other.fingerprint := by
      rw [fingerprint, fingerprint, book, ownerFields]
    obtain ⟨-, id, computed⟩ | ⟨-, fault, failed⟩ := policy.fingerprint_cases
    · rw [(fresh.currentId computed).1, (fresh'.currentId (fingerprints.symm.trans computed)).1]
    · rw [fresh.currentId_of_error failed,
        fresh'.currentId_of_error (fingerprints.symm.trans failed)]
      rfl
  have audited : policy.audits audit = other.audits audit := by rw [audits, audits, config]
  unfold openTrail
  rw [audited]
  split
  · rw [Outcome.map, Outcome.map, sameId]
  · rfl

/-- Policies that differ in default rules and the last audit only answer alike. -/
theorem result_check_congr (query : Query) (audit : Value) :
    (policy.check query audit).result = (other.check query audit).result := by
  have validated : policy.validate query = other.validate query := by
    rw [validate, validate, config]
  unfold check
  rw [validated]
  cases other.validate query with
  | error e => rfl
  | ok _ =>
      simp only [Outcome.result_andThen]
      rw [result_openTrail_congr config book ownerFields fresh fresh']
      -- an id that is computed on the way does not matter to the ruling
      obtain ⟨id, opened⟩ := policy.policy_openTrail query audit
      obtain ⟨id', opened'⟩ := other.policy_openTrail query audit
      have ruled (trail : Trail) :
          ((policy.openTrail query audit).policy.ruleOn query trail).result =
            ((other.openTrail query audit).policy.ruleOn query trail).result := by
        rw [opened, opened']
        simp only [ruleOn, ownership, book, ownerFields, config]
      simp only [ruled]

theorem result_decide_congr (query : Query) (audit : Value) :
    (policy.decide query audit).result = (other.decide query audit).result := by
  unfold decide
  rw [Outcome.result_andThen, Outcome.result_andThen,
    result_check_congr config book ownerFields fresh fresh']

end Alike

/-- Reachable policies with the same text and the same configuration answer every check
alike. -/
theorem Reachable.result_eq_of_text {policy other : Policy} (reachable : policy.Reachable)
    (reachable' : other.Reachable) (config : policy.config = other.config)
    (same : Fingerprint.text policy.book.toValue (.ofTexts policy.ownerFields) =
      Fingerprint.text other.book.toValue (.ofTexts other.ownerFields))
    (query : Query) (audit : Value) :
    (policy.check query audit).result = (other.check query audit).result ∧
      (policy.decide query audit).result = (other.decide query audit).result := by
  obtain ⟨book, ownerFields⟩ := reachable.eq_of_text reachable' same
  have fresh := reachable.isFresh
  have fresh' := reachable'.isFresh
  exact ⟨result_check_congr config book ownerFields fresh fresh' query audit,
    result_decide_congr config book ownerFields fresh fresh' query audit⟩

end Policy

namespace Fingerprint

/-- **Fingerprints identify what rules say.** The digested text tells the ownership fields as a
map and the decisions of the rules, and nothing else. Rules in another order have the same
fingerprint if those that decide for everyone at one address keep their order. Policies with
the same text and the same configuration answer every check alike. -/
theorem identifies :
    (∀ values values' rules rules', ReadAs values rules → ReadAs values' rules' →
      ∀ names names' : Table Text, names.keys.Nodup → names'.keys.Nodup →
        ∃ found found', text (Rulebook.enactAll {} values).book.toValue (.ofTexts names) =
            .ok found ∧
          text (Rulebook.enactAll {} values').book.toValue (.ofTexts names') = .ok found' ∧
          (found = found' ↔ (∀ model, names.find? model = names'.find? model) ∧
            ∀ address role,
              lastDecision rules address role = lastDecision rules' address role)) ∧
    (∀ values values' rules rules', ReadAs values rules → ReadAs values' rules' →
      Reordered rules rules' → ∀ names : Table Text,
        compute (Rulebook.enactAll {} values).book.toValue (.ofTexts names) =
          compute (Rulebook.enactAll {} values').book.toValue (.ofTexts names)) ∧
    ∀ policy other : Policy, policy.Reachable → other.Reachable →
      policy.config = other.config →
      text policy.book.toValue (.ofTexts policy.ownerFields) =
        text other.book.toValue (.ofTexts other.ownerFields) →
      ∀ query audit, (policy.check query audit).result = (other.check query audit).result ∧
        (policy.decide query audit).result = (other.decide query audit).result := by
  refine ⟨?_, ?_, ?_⟩
  · intro values values' rules rules' valid valid' names names' distinct distinct'
    have told := text_enactAll_eq_iff values values' rules rules' valid valid' names names'
      distinct distinct'
    obtain ⟨found, digested⟩ := exists_text (Rulebook.enactAll {} values).book names
    obtain ⟨found', digested'⟩ := exists_text (Rulebook.enactAll {} values').book names'
    rw [digested, digested', Except.ok.injEq] at told
    exact ⟨found, found', digested, digested', told⟩
  · intro values values' rules rules' valid valid' reordered names
    rw [reordered.book_eq valid valid']
  · intro policy other reachable reachable' config same query audit
    exact reachable.result_eq_of_text reachable' config same query audit

/-- A blanket denial and an allowance for readers can be given in either order: the fingerprint
is the same, and so are all answers. An ownership field that is set changes the text. -/
theorem identifies_reordered_readers :
    let denial := Value.texts ["all", "*:0"]
    let readers := Value.texts ["reader", "model:post:read:any:1"]
    let book := (Rulebook.enactAll {} [denial, readers]).book
    let other := (Rulebook.enactAll {} [readers, denial]).book
    let names : Table Text := [("post", "userId")]
    compute book.toValue (.ofTexts names) = compute other.toValue (.ofTexts names) ∧
      text book.toValue (.ofTexts names) ≠ text book.toValue (.ofTexts []) ∧
      ∃ start events start' events',
        Policy.create none .null .null (.list [denial, readers]) = .ok (start, events) ∧
        Policy.create none .null .null (.list [readers, denial]) = .ok (start', events') ∧
        ∀ query audit, (start.check query audit).result = (start'.check query audit).result := by
  intro denial readers book other names
  let everyone : Rule := { roles := ["all"], resource := .blanket, clauses := [], allow := false }
  let reader : Rule :=
    { roles := ["reader"], resource := .model, clauses := ["post", "read", "any"], allow := true }
  have valid : ReadAs [denial, readers] [everyone, reader] :=
    ⟨rfl, List.forall_mem_cons.mpr ⟨⟨_, rfl⟩, List.forall_mem_singleton.mpr ⟨_, rfl⟩⟩⟩
  have valid' : ReadAs [readers, denial] [reader, everyone] :=
    ⟨rfl, List.forall_mem_cons.mpr ⟨⟨_, rfl⟩, List.forall_mem_singleton.mpr ⟨_, rfl⟩⟩⟩
  have reordered : Reordered [everyone, reader] [reader, everyone] := by
    refine ⟨.swap .., fun address => ?_⟩
    -- the allowance is for readers only, so it stands in neither list of rules for everyone
    have unnamed : ¬reader.Writes address allRole := fun writes => absurd writes.2 (by decide)
    simp [List.filter_cons, unnamed]
  obtain ⟨told, orders, answers⟩ := identifies
  refine ⟨orders _ _ _ _ valid valid' reordered names, ?_, ?_⟩
  · obtain ⟨found, found', digested, digested', tells⟩ :=
      told _ _ _ _ valid valid names [] (by decide) (by decide)
    intro same
    rw [digested, digested', Except.ok.injEq, tells] at same
    exact absurd (same.1 "post") (by decide)
  · obtain ⟨found, found', digested, digested', tells⟩ :=
      told _ _ _ _ valid valid' [] [] (by decide) (by decide)
    have same : found = found' :=
      tells.mpr ⟨fun _ => rfl, reordered.lastDecision_eq valid.denials⟩
    rw [← same] at digested'
    refine ⟨_, _, _, _, rfl, rfl, fun query audit => ?_⟩
    have reachable := Policy.Reachable.created none .null .null (.list [denial, readers]) _ _ rfl
    have reachable' := Policy.Reachable.created none .null .null (.list [readers, denial]) _ _ rfl
    exact (answers _ _ reachable reachable' rfl (digested.trans digested'.symm) query audit).1

end Fingerprint

end RoleAccess
