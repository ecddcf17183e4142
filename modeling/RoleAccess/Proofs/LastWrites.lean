import RoleAccess.Proofs.Batches
import RoleAccess.Proofs.Documents
set_option autoImplicit false

/-! # A rulebook is the table of its last writes

The rulebook of some rules holds, at every address and for every role, the decision of the
last rule that targets the address and names the role, and it shows this decision in the
place of the address. Nothing is held for a role that no such rule names. The table is built
rule by rule: putting a rule into any rulebook writes where the rule targets, for the roles
that it names, and every other decision stays where it is.
-/

namespace RoleAccess

namespace Rule

variable (rule : Rule) (address : Address)

/-! ## Targets of blanket rules and of rules about paths -/

theorem targets_blanket_iff (resource : rule.resource = .blanket) :
    rule.Targets address ↔ address ∈ [Address.models, .modules, .route []] := by
  cases address <;> simp [Targets, resource]

theorem targets_path_iff (resource : rule.resource = .route) (path : Text)
    (clauses : rule.clauses = [path]) :
    rule.Targets address ↔ address = .route (Path.segments path) := by
  unfold Targets
  cases address with
  | route segments =>
      simp only [resource, clauses, pathSegments, Address.route.injEq, reduceCtorEq, false_and,
        false_or, true_and, List.length_singleton, Nat.le_refl]
      exact eq_comm
  | _ => simp [resource, clauses]

theorem targets_pathMethod_iff (resource : rule.resource = .route) (path method : Text)
    (clauses : rule.clauses = [path, method]) :
    rule.Targets address ↔ address = .routeMethod (Path.segments path) method := by
  unfold Targets
  cases address with
  | routeMethod segments name =>
      simp only [resource, clauses, pathSegments, Address.routeMethod.injEq, true_and,
        List.tail_cons, List.cons.injEq, and_true]
      exact and_congr eq_comm eq_comm
  | _ => simp [resource, clauses]

/-- The rule writes the decision for a role at an address. -/
def Writes (role : Text) : Prop := rule.Targets address ∧ role ∈ rule.roles

instance (role : Text) : Decidable (rule.Writes address role) :=
  inferInstanceAs (Decidable (_ ∧ _))

end Rule

/-! ## The last write -/

/-- A decision is the last one that some rules write: a rule writes it, and no rule after
that one writes any. -/
def IsLastWrite (rules : List Rule) (address : Address) (role : Text) (allow : Bool) : Prop :=
  ∃ before rule after, rules = before ++ rule :: after ∧ rule.Writes address role ∧
    rule.allow = allow ∧ ∀ later ∈ after, ¬later.Writes address role

theorem lastDecision_eq_some_iff (rules : List Rule) (address : Address) (role : Text)
    (allow : Bool) :
    lastDecision rules address role = some allow ↔ IsLastWrite rules address role allow := by
  unfold lastDecision
  rw [Option.map_eq_some_iff]
  constructor
  · rintro ⟨rule, found, rfl⟩
    obtain ⟨writes, after, before, split, none⟩ := List.find?_eq_some_iff_append.mp found
    refine ⟨before.reverse, rule, after.reverse, ?_, of_decide_eq_true writes, rfl, ?_⟩
    · rw [← List.reverse_reverse rules, split]
      simp
    · intro later mem
      have silent := none later (List.mem_reverse.mp mem)
      rwa [Bool.not_eq_true', decide_eq_false_iff_not] at silent
  · rintro ⟨before, rule, after, rfl, writes, rfl, none⟩
    refine ⟨rule, ?_, rfl⟩
    refine List.find?_eq_some_iff_append.mpr ⟨decide_eq_true writes, after.reverse,
      before.reverse, by simp, ?_⟩
    intro later mem
    rw [Bool.not_eq_true', decide_eq_false_iff_not]
    exact none later (List.mem_reverse.mp mem)

/-- Some values are read as valid rules, each of which spells its addresses. -/
structure ReadAs (values : List Value) (rules : List Rule) : Prop where
  read : values.map Rule.parse = rules.map .ok
  spelled : ∀ rule ∈ rules, ∃ addresses, rule.addresses = .ok addresses

namespace Rulebook

/-- A rulebook holds the last writes of some rules, and shows what it holds. -/
structure IsTableOf (book : Rulebook) (rules : List Rule) : Prop where
  /-- The last decision that is written is held. -/
  given : ∀ address role allow,
    book.decisionAt address role = some allow ↔ IsLastWrite rules address role allow
  /-- Nothing is held if no rule writes a decision. -/
  nothing : ∀ address role,
    book.decisionAt address role = none ↔ ∀ rule ∈ rules, ¬rule.Writes address role
  /-- What is held is shown in the place of the address. -/
  shown : ∀ address role, book.toValue.at? (address.place ++ (["allow", role] : List Text)) =
    (book.decisionAt address role).map Value.bool

theorem isTableOf_of_lastDecision (book : Rulebook) (rules : List Rule)
    (holds : ∀ address role, book.decisionAt address role = lastDecision rules address role) :
    book.IsTableOf rules where
  given address role allow := by rw [holds, lastDecision_eq_some_iff]
  nothing address role := by
    rw [holds, lastDecision_eq_none_iff]
    rfl
  shown := book.at?_toValue

/-- A rulebook takes a rule if it writes what the rule says and leaves the rest alone. -/
def Takes (book : Rulebook) (rule : Rule) : Prop :=
  ∃ next, book.add rule = .ok next ∧ ∀ address role,
    (rule.Writes address role → next.decisionAt address role = some rule.allow) ∧
      (¬rule.Writes address role →
        next.decisionAt address role = book.decisionAt address role)

theorem takes_of_addresses (book : Rulebook) (rule : Rule) (addresses : List Address)
    (spelled : rule.addresses = .ok addresses) : book.Takes rule := by
  have added : book.add rule = .ok (book.insertAll rule.roles rule.allow addresses) :=
    (add_eq_ok_iff _ _ _).mpr ⟨addresses, spelled, rfl⟩
  refine ⟨_, added, fun address role => ⟨fun writes => ?_, fun spared => ?_⟩⟩
  · rw [decisionAt_add book _ rule added]
    exact if_pos writes
  · rw [decisionAt_add book _ rule added]
    exact if_neg spared

/-- Valid rules are accepted. -/
theorem fault_enactAll_of_readAs (values : List Value) (rules : List Rule)
    (valid : ReadAs values rules) : (enactAll {} values).fault = none := by
  rw [fault_enactAll, List.findSome?_eq_none_iff]
  intro value mem
  obtain ⟨rule, hrule, parsed⟩ : ∃ rule ∈ rules, .ok rule = Rule.parse value := by
    rw [← List.mem_map, ← valid.read]
    exact List.mem_map_of_mem mem
  obtain ⟨addresses, spelled⟩ := valid.spelled rule hrule
  -- a fault would come from reading the rule or from its addresses
  cases rejected : Rule.rejection? value with
  | none => rfl
  | some fault =>
      rw [rejection?_eq_some_iff {}, enact_eq_error_iff, ← parsed] at rejected
      obtain failed | ⟨other, same, failed⟩ := rejected
      · cases failed
      · cases same
        rw [spelled] at failed
        cases failed

/-- The rulebook of valid rules holds their last decisions. -/
theorem decisionAt_of_readAs (values : List Value) (rules : List Rule)
    (valid : ReadAs values rules) (address : Address) (role : Text) :
    (enactAll {} values).book.decisionAt address role = lastDecision rules address role := by
  have accepted := fault_enactAll_of_readAs values rules valid
  rw [decisionAt_enactAll, enacted_of_read values rules valid.read accepted]

/-- **Compiling rules keeps their last writes.** A list of valid rules is accepted and makes
the table of its last writes, in which a blanket rule writes at the three global addresses
and a route rule at the segments of its path. Any rulebook takes each of the rules, so no
other decision is moved or removed on the way. -/
theorem enactAll_lastWrites (values : List Value) (rules : List Rule)
    (valid : ReadAs values rules) :
    (enactAll {} values).fault = none ∧ (enactAll {} values).book.IsTableOf rules ∧
      (∀ book : Rulebook, ∀ rule ∈ rules, book.Takes rule) ∧
      ∀ rule ∈ rules, ∀ address,
        (rule.resource = .blanket →
          (rule.Targets address ↔ address ∈ [Address.models, .modules, .route []])) ∧
        (∀ path, rule.resource = .route → rule.clauses = [path] →
          (rule.Targets address ↔ address = .route (Path.segments path))) ∧
        ∀ path method, rule.resource = .route → rule.clauses = [path, method] →
          (rule.Targets address ↔ address = .routeMethod (Path.segments path) method) := by
  refine ⟨fault_enactAll_of_readAs values rules valid, ?_, ?_, ?_⟩
  · exact isTableOf_of_lastDecision _ rules (decisionAt_of_readAs values rules valid)
  · intro book rule mem
    obtain ⟨addresses, spelled⟩ := valid.spelled rule mem
    exact book.takes_of_addresses rule addresses spelled
  · intro rule _ address
    exact ⟨rule.targets_blanket_iff address,
      fun path resource => rule.targets_path_iff address resource path,
      fun path method resource => rule.targets_pathMethod_iff address resource path method⟩

/-- Of two blanket rules, the later one decides about all models; what readers may do with
posts is decided between them and stays. -/
theorem enactAll_lastWrites_readers :
    let values := [Value.texts ["all", "*:0"], Value.texts ["reader", "model:post:read:any:1"],
      Value.texts ["all", "*:1"]]
    let book := (enactAll {} values).book
    book.decisionAt .models "all" = some true ∧ book.decisionAt .models "reader" = none ∧
      book.toValue.at? ["model", "model", "post", "action", "read", "any", "allow", "reader"] =
        some (.bool true) := by
  intro values book
  let denial : Rule := { roles := ["all"], resource := .blanket, clauses := [], allow := false }
  let readers : Rule :=
    { roles := ["reader"], resource := .model, clauses := ["post", "read", "any"], allow := true }
  let allowance : Rule := { denial with allow := true }
  have read : values.map Rule.parse = [denial, readers, allowance].map .ok := rfl
  have spelled : ∀ rule ∈ [denial, readers, allowance],
      ∃ addresses, rule.addresses = .ok addresses := by
    intro rule mem
    simp only [List.mem_cons, List.not_mem_nil, or_false] at mem
    obtain rfl | rfl | rfl := mem
    · exact ⟨_, rfl⟩
    · exact ⟨_, rfl⟩
    · exact ⟨_, rfl⟩
  obtain ⟨-, table, -⟩ :=
    enactAll_lastWrites values [denial, readers, allowance] ⟨read, spelled⟩
  have last : book.decisionAt .models "all" = some true :=
    (table.given _ _ _).mpr ⟨[denial, readers], allowance, [], rfl, by decide, rfl, by simp⟩
  have unsaid : book.decisionAt .models "reader" = none :=
    (table.nothing _ _).mpr (by decide)
  have kept : book.decisionAt (.action "post" "read" .any) "reader" = some true :=
    (table.given _ _ _).mpr ⟨[denial], readers, [allowance], rfl, by decide, rfl, by decide⟩
  refine ⟨last, unsaid, ?_⟩
  have shown := table.shown (.action "post" "read" .any) "reader"
  rwa [kept] at shown

end Rulebook

end RoleAccess
