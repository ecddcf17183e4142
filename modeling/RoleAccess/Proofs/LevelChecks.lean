import RoleAccess.Proofs.Records
set_option autoImplicit false

/-! # A level and what is noted of it

A level can be consulted on its own, with decisions of any kind under the roles. A decision that
counts as given grants, so an integer other than zero does; one that is there but does not count
denies, unless it is nothing. A grant to any of the roles comes before a denial for the role
everyone has, whether or not that is among them, and a level with neither leaves what was decided
so far (`Verdict.onTexts_cases`). The answer and the one entry that is made are both told by this
verdict: the entry names the first role that is granted, and the answer is the same in whatever
order, and however often, the roles are given.
-/

namespace RoleAccess

namespace Table

variable (rules : Table Value)

/-- There is a decision for a role, and it counts as given. -/
def Grants (role : Text) : Prop :=
  ∃ decision, rules.find? role = some decision ∧ decision.truthy = true

/-- There is a decision for the role everyone has, other than nothing, that does not count as
given. -/
def DeniesEveryone : Prop :=
  ∃ decision, rules.find? allRole = some decision ∧ decision ≠ .null ∧ decision.truthy = false

end Table

/-! ## The verdict on role names -/

namespace Verdict

variable (rules : Table Value)

theorem grants_iff (role : Text) :
    grants (rules.find? role) = true ↔ rules.Grants role := by
  cases found : rules.find? role with
  | none => simp [grants, Table.Grants, found]
  | some decision => simp [grants, Table.Grants, found]

theorem refuses_iff : refuses (rules.find? allRole) = true ↔ rules.DeniesEveryone := by
  cases found : rules.find? allRole with
  | none => simp [refuses, Table.DeniesEveryone, found]
  | some decision => cases decision <;> simp [refuses, Table.DeniesEveryone, found, Value.truthy]

variable (roles : List Text)

/-- What a level says to some roles, with the reason. -/
theorem onTexts_cases :
    (∃ before role after, roles = before ++ role :: after ∧
        (∀ other ∈ before, ¬rules.Grants other) ∧ rules.Grants role ∧
        onTexts rules roles = .allowed (.str role)) ∨
      ((∀ role ∈ roles, ¬rules.Grants role) ∧ rules.DeniesEveryone ∧
        onTexts rules roles = .denied) ∨
      ((∀ role ∈ roles, ¬rules.Grants role) ∧ ¬rules.DeniesEveryone ∧
        onTexts rules roles = .silent) := by
  cases found : roles.find? fun role => grants (rules.find? role) with
  | some role =>
      obtain ⟨granted, before, after, split, passed⟩ := List.find?_eq_some_iff_append.mp found
      refine Or.inl ⟨before, role, after, split, fun other mem => ?_,
        (grants_iff rules role).mp granted, by rw [onTexts, found]⟩
      rw [← grants_iff]
      simpa using passed other mem
  | none =>
      have noGrant : ∀ role ∈ roles, ¬rules.Grants role := by
        intro role mem
        rw [← grants_iff]
        exact List.find?_eq_none.mp found role mem
      by_cases denied : rules.DeniesEveryone
      · refine Or.inr (Or.inl ⟨noGrant, denied, ?_⟩)
        rw [onTexts, found, (refuses_iff rules).mpr denied]
        rfl
      · have notRefused : ¬refuses (rules.find? allRole) = true := mt (refuses_iff rules).mp denied
        refine Or.inr (Or.inr ⟨noGrant, denied, ?_⟩)
        rw [onTexts, found, Bool.eq_false_iff.mpr notRefused]
        rfl

theorem decision?_onTexts_true_iff :
    (onTexts rules roles).decision? = some true ↔ ∃ role ∈ roles, rules.Grants role := by
  rcases onTexts_cases rules roles with ⟨before, role, after, rfl, -, granted, verdict⟩ |
    ⟨noGrant, -, verdict⟩ | ⟨noGrant, -, verdict⟩
  · rw [verdict]
    exact ⟨fun _ => ⟨role, by simp, granted⟩, fun _ => rfl⟩
  · simpa [verdict, decision?] using noGrant
  · simpa [verdict, decision?] using noGrant

theorem decision?_onTexts_false_iff :
    (onTexts rules roles).decision? = some false ↔
      (∀ role ∈ roles, ¬rules.Grants role) ∧ rules.DeniesEveryone := by
  rcases onTexts_cases rules roles with ⟨before, role, after, rfl, -, granted, verdict⟩ |
    ⟨noGrant, denied, verdict⟩ | ⟨-, notDenied, verdict⟩
  · rw [verdict]
    exact ⟨nofun, fun denied => absurd granted (denied.1 role (by simp))⟩
  · rw [verdict]
    exact ⟨fun _ => ⟨noGrant, denied⟩, fun _ => rfl⟩
  · rw [verdict]
    exact ⟨nofun, fun denied => absurd denied.2 notDenied⟩

/-- The order of the roles and their repetitions are no matter to the decision. -/
theorem decision?_onTexts_congr {roles others : List Text}
    (same : ∀ role, role ∈ others ↔ role ∈ roles) :
    (onTexts rules others).decision? = (onTexts rules roles).decision? := by
  refine Option.ext fun decision => ?_
  cases decision with
  | true => simp only [decision?_onTexts_true_iff, same]
  | false => simp only [decision?_onTexts_false_iff, same]

end Verdict

/-! ## Consulting a level on its own -/

namespace LevelCheck

/-- Some decisions, if there are any, are consulted with role names, and nothing more is said
about the level. -/
def plain (current matched ruleType : Value) (rules : Option (Table Value))
    (roles : List Text) : LevelCheck :=
  { current, roles := Value.texts roles, rules := (rules.map .obj).getD .null, matched, ruleType,
    extra := [] }

variable (current matched ruleType : Value) (rules : Option (Table Value)) (roles : List Text)

/-- What is answered if the level says nothing. -/
def fallback : Value := if matched.truthy = true then .null else current

/-- What is answered to a verdict. -/
def answerTo (verdict : Verdict) : Value :=
  (verdict.decision?.map .bool).getD (fallback current matched)

theorem table_plain :
    (plain current matched ruleType rules roles).table = .ok (rules.getD []) := by
  rcases rules with _ | _ | ⟨entry, rest⟩ <;> rfl

theorem run_plain :
    let verdict := Verdict.onTexts (rules.getD []) roles
    (plain current matched ruleType rules roles).run =
      { entries := [.level ruleType (rules.getD []) verdict []]
        result := .ok (answerTo current matched verdict) } := by
  intro verdict
  have consulted := consult_texts roles ruleType (rules.getD []) []
  rw [run, table_plain]
  simp only [plain, Value.texts, Value.elements, Trace.ofUse_ok] at consulted ⊢
  simp only [consulted, Trace.bind_eq, Trace.done, Trace.andThen]
  rw [answerTo]
  cases verdict.decision? <;> rfl

/-- What a level with the decisions in a table comes to for some roles, and what its entry
says. -/
structure Settled (table : Table Value) (answer : Value) (entry : Table Value) : Prop where
  /-- The entry names the first role that is granted. -/
  allowed : (∃ role ∈ roles, table.Grants role) → answer = .bool true ∧
    ∃ before role after, roles = before ++ role :: after ∧
      (∀ other ∈ before, ¬table.Grants other) ∧ table.Grants role ∧
      entry = ([("allow", .bool true), ("role", .str role), ("rule_type", ruleType),
        ("rules", .obj table)] : Table Value)
  denied : (∀ role ∈ roles, ¬table.Grants role) → table.DeniesEveryone → answer = .bool false ∧
    entry = ([("allow", .bool false), ("role", .str allRole), ("rule_type", ruleType),
      ("rules", .obj table)] : Table Value)
  /-- Without a decision, the entry has none either. -/
  silent : (∀ role ∈ roles, ¬table.Grants role) → ¬table.DeniesEveryone →
    answer = fallback current matched ∧
    entry = ([("matched", .bool false), ("rule_type", ruleType), ("rules", .obj table)] :
      Table Value)
  true_iff : answer = .bool true ↔ (∃ role ∈ roles, table.Grants role) ∨
    ¬table.DeniesEveryone ∧ fallback current matched = .bool true
  false_iff : answer = .bool false ↔ (∀ role ∈ roles, ¬table.Grants role) ∧
    (table.DeniesEveryone ∨ fallback current matched = .bool false)

variable {roles} (table : Table Value)

theorem settled_allowed {before after : List Text} {role : Text}
    (split : roles = before ++ role :: after) (passed : ∀ other ∈ before, ¬table.Grants other)
    (granted : table.Grants role) :
    Settled current matched ruleType roles table (.bool true)
      [("allow", .bool true), ("role", .str role), ("rule_type", ruleType),
        ("rules", .obj table)] := by
  have member : role ∈ roles := by simp [split]
  constructor
  case allowed => exact fun _ => ⟨rfl, before, role, after, split, passed, granted, rfl⟩
  case denied => exact fun noGrant => absurd granted (noGrant role member)
  case silent => exact fun noGrant => absurd granted (noGrant role member)
  case true_iff => exact ⟨fun _ => Or.inl ⟨role, member, granted⟩, fun _ => rfl⟩
  case false_iff => exact ⟨nofun, fun reason => absurd granted (reason.1 role member)⟩

theorem settled_denied (noGrant : ∀ role ∈ roles, ¬table.Grants role)
    (denied : table.DeniesEveryone) :
    Settled current matched ruleType roles table (.bool false)
      [("allow", .bool false), ("role", .str allRole), ("rule_type", ruleType),
        ("rules", .obj table)] := by
  have notGranted : ¬∃ role ∈ roles, table.Grants role :=
    fun ⟨role, member, granted⟩ => noGrant role member granted
  constructor
  case allowed => exact fun granted => absurd granted notGranted
  case denied => exact fun _ _ => ⟨rfl, rfl⟩
  case silent => exact fun _ notDenied => absurd denied notDenied
  case true_iff =>
    refine ⟨nofun, ?_⟩
    rintro (granted | ⟨notDenied, -⟩)
    · exact absurd granted notGranted
    · exact absurd denied notDenied
  case false_iff => exact ⟨fun _ => ⟨noGrant, Or.inl denied⟩, fun _ => rfl⟩

theorem settled_silent (noGrant : ∀ role ∈ roles, ¬table.Grants role)
    (notDenied : ¬table.DeniesEveryone) :
    Settled current matched ruleType roles table (fallback current matched)
      [("matched", .bool false), ("rule_type", ruleType), ("rules", .obj table)] := by
  have notGranted : ¬∃ role ∈ roles, table.Grants role :=
    fun ⟨role, member, granted⟩ => noGrant role member granted
  constructor
  case allowed => exact fun granted => absurd granted notGranted
  case denied => exact fun _ denied => absurd denied notDenied
  case silent => exact fun _ _ => ⟨rfl, rfl⟩
  case true_iff =>
    exact ⟨fun standing => Or.inr ⟨notDenied, standing⟩,
      fun reason => (reason.resolve_left notGranted).2⟩
  case false_iff =>
    exact ⟨fun standing => ⟨noGrant, Or.inr standing⟩,
      fun reason => reason.2.resolve_left notDenied⟩

variable (roles)

/-- The answer to a verdict and the entry about it are settled together. -/
theorem settled_onTexts :
    Settled current matched ruleType roles table
      (answerTo current matched (Verdict.onTexts table roles))
      (Entry.level ruleType table (Verdict.onTexts table roles) []).fields := by
  obtain ⟨before, role, after, split, passed, granted, said⟩ | ⟨noGrant, denied, said⟩ |
    ⟨noGrant, notDenied, said⟩ := Verdict.onTexts_cases table roles
  · rw [said]
    exact settled_allowed current matched ruleType table split passed granted
  · rw [said]
    exact settled_denied current matched ruleType table noGrant denied
  · rw [said]
    exact settled_silent current matched ruleType table noGrant notDenied

/-- **A level and its log agree.** Role names are consulted at a level, along an open record. The
record gets exactly one entry. If a decision for one of the roles counts as given, the answer is
an allowance, and the entry names the first such role. If none does, and the one for the role
everyone has is there, is not nothing and does not count as given, the answer is a denial, and the
entry names that role, which need not be among the others. If the level says nothing, the answer is
what was decided so far, or nothing if that is asked for, and the entry has no decision. The entry
holds all decisions of the level, and neither the order of the roles nor their repetitions are any
matter to the answer. -/
theorem plain_onRecord (record : Record) (isOpen : record.complete = false) :
    let table := rules.getD []
    let consulted (roles : List Text) :=
      (Trail.kept record).run (plain current matched ruleType rules roles).run
    ∃ answer entry,
      consulted roles = (.kept { record with entries := record.entries ++ [entry] }, .ok answer) ∧
      Settled current matched ruleType roles table answer entry.fields ∧
      ∀ others : List Text, (∀ role, role ∈ others ↔ role ∈ roles) →
        (consulted others).2 = .ok answer := by
  intro table consulted
  refine ⟨answerTo current matched (Verdict.onTexts table roles),
    .level ruleType table (Verdict.onTexts table roles) [], ?_,
    settled_onTexts current matched ruleType roles table, fun others same => ?_⟩
  · simp only [consulted, Trail.run_kept record isOpen, run_plain]
    rfl
  · have decision := Verdict.decision?_onTexts_congr table same
    simp only [consulted, Trail.run_kept record isOpen, run_plain]
    rw [answerTo, decision]
    rfl

/-- Integers are decisions as well. Zero for everyone denies a user, whose own decision is nothing,
and one for the editor grants, wherever that role stands and however often the other one does. -/
theorem plain_onRecord_integers :
    let record : Record := { id := .str "id", kind := .model, args := [] }
    let rules : Table Value := [("all", .int 0), ("editor", .int 1), ("user", .null)]
    let consulted (roles : List Text) :=
      (Trail.kept record).run (plain (.bool true) .null (.str "model") (some rules) roles).run
    record.complete = false ∧
      (∀ role, role ∈ (["editor", "user"] : List Text) ↔
        role ∈ (["user", "editor", "user"] : List Text)) ∧
      (consulted ["user", "editor", "user"]).2 = .ok (.bool true) ∧
      (consulted ["editor", "user"]).2 = .ok (.bool true) ∧
      (consulted ["user"]).2 = .ok (.bool false) := by
  intro record rules consulted
  have law := plain_onRecord (.bool true) .null (.str "model") (some rules)
  have editor : rules.Grants "editor" := ⟨.int 1, rfl, rfl⟩
  have everyone : rules.DeniesEveryone := ⟨.int 0, rfl, nofun, rfl⟩
  have user : ∀ role ∈ (["user"] : List Text), ¬rules.Grants role := by
    intro role member
    rw [List.mem_singleton.mp member]
    rintro ⟨decision, found, granted⟩
    cases found
    cases granted
  have same (role : Text) : role ∈ (["editor", "user"] : List Text) ↔
      role ∈ (["user", "editor", "user"] : List Text) := by
    simp only [List.mem_cons, List.not_mem_nil, or_false]
    exact ⟨Or.inr, fun member => member.elim Or.inr id⟩
  obtain ⟨answer, entry, taken, settled, anyOrder⟩ := law ["user", "editor", "user"] record rfl
  obtain ⟨rfl, -⟩ := settled.allowed ⟨"editor", by simp, editor⟩
  obtain ⟨other, otherEntry, otherTaken, otherSettled, -⟩ := law ["user"] record rfl
  obtain ⟨rfl, -⟩ := otherSettled.denied user everyone
  exact ⟨rfl, same, congrArg Prod.snd taken, anyOrder ["editor", "user"] same,
    congrArg Prod.snd otherTaken⟩

end LevelCheck

end RoleAccess
