import RoleAccess.Proofs.Documents
import RoleAccess.Proofs.WellFormed
set_option autoImplicit false

/-! # Rulebooks after any calls

Rules are put in one alone or several together, and any of these calls can fail. After all
of them, a rulebook that was empty at first is well-formed, and nothing in its document is
shown as an empty object.
-/

namespace RoleAccess

variable {α : Type}

/-! ## Calls -/

/-- A call that puts rules in: one alone, or several up to the first that is rejected. -/
inductive RuleCall where
  | one (rule : Value)
  | several (rules : Value)

namespace Rulebook

/-- The rulebook after a call, which may have failed. -/
def after (book : Rulebook) : RuleCall → Rulebook
  | .one rule => (book.enactAll [rule]).book
  | .several rules => (book.enactList rules).book

/-- The rulebook that some calls make of an empty one. -/
def afterAll (calls : List RuleCall) : Rulebook := calls.foldl after {}

theorem WellFormed.after {book : Rulebook} (wellFormed : book.WellFormed) (call : RuleCall) :
    (book.after call).WellFormed := by
  cases call with
  | one rule => exact wellFormed.enactAll [rule]
  | several rules =>
      cases given : rules.items? with
      | none => simpa only [Rulebook.after, enactList, given] using wellFormed
      | some items =>
          simpa only [Rulebook.after, enactList, given] using wellFormed.enactAll items

theorem WellFormed.afterAll (calls : List RuleCall) : (afterAll calls).WellFormed := by
  have run (book : Rulebook) (wellFormed : book.WellFormed) :
      (calls.foldl Rulebook.after book).WellFormed := by
    induction calls generalizing book with
    | nil => exact wellFormed
    | cons call rest ih => exact ih _ (wellFormed.after call)
  exact run {} wellFormed_empty

end Rulebook

/-! ## Documents without empty objects -/

/-- A value of truth values and objects, none of which is empty. -/
inductive Value.IsFull : Value → Prop
  | bool (b : Bool) : IsFull (.bool b)
  | obj (fields : Table Value) (present : fields ≠ [])
      (full : ∀ field ∈ fields, IsFull field.2) : IsFull (.obj fields)

open Value (IsFull)

theorem fullFields_tableField (name : Text) (shown : α → Value) (table : Table α)
    (full : ∀ entry ∈ table, (shown entry.2).IsFull) :
    AllFields IsFull (tableField name shown table) :=
  allFields_tableField .obj name shown table full

theorem tableField_ne_nil (name : Text) (shown : α → Value) (table : Table α)
    (present : table ≠ []) : tableField name shown table ≠ [] := by
  cases table with
  | nil => exact absurd rfl present
  | cons entry rest => simp [tableField]

theorem fullFields_allowField (allow : Option Allows)
    (wellFormed : ∀ allows ∈ allow, allows.WellFormed) : AllFields IsFull (allowField allow) := by
  refine allFields_optionalField "allow" _ fun value mem => ?_
  obtain ⟨allows, found, rfl⟩ := Option.map_eq_some_iff.mp mem
  refine .obj _ ?_ (allFields_mapValues Value.bool allows fun entry _ => .bool entry.2)
  simpa [Allows.toFields, Table.mapValues] using (wellFormed allows found).present

theorem allowField_ne_nil (allow : Option Allows) (decided : Decided allow) :
    allowField allow ≠ [] := by
  obtain ⟨allows, rfl, -⟩ := decided
  simp [allowField, optionalField]

theorem Allows.WellFormed.isFull {allows : Allows} (wellFormed : allows.WellFormed) :
    allows.toValue.IsFull := by
  refine .obj _ (by simp [allowField, optionalField]) (fullFields_allowField (some allows) ?_)
  intro other mem
  cases mem
  exact wellFormed

/-- A page with decisions of its own and one table of what is below it. -/
theorem isFull_page (allow : Option Allows) (name : Text) (shown : α → Value) (table : Table α)
    (wellFormed : ∀ allows ∈ allow, allows.WellFormed) (present : Decided allow ∨ table ≠ [])
    (full : ∀ entry ∈ table, (shown entry.2).IsFull) :
    (Value.obj (allowField allow ++ tableField name shown table)).IsFull := by
  refine .obj _ ?_
    ((fullFields_allowField allow wellFormed).append (fullFields_tableField name shown table full))
  obtain decided | present := present
  · exact List.append_ne_nil_of_left_ne_nil (allowField_ne_nil allow decided) _
  · exact List.append_ne_nil_of_right_ne_nil _ (tableField_ne_nil name shown table present)

theorem present_of_exists_mem {table : Table α} {good : Text × α → Prop}
    (found : ∃ entry ∈ table, good entry) : table ≠ [] := by
  obtain ⟨entry, mem, -⟩ := found
  exact List.ne_nil_of_mem mem

namespace ScopedAllows

variable {pair : ScopedAllows}

theorem WellFormed.fullFields (wellFormed : pair.WellFormed) : AllFields IsFull pair.toFields := by
  have scope (name : Text) (scope : Scope) :
      AllFields IsFull (optionalField name ((pair.get scope).map Allows.toValue)) := by
    refine allFields_optionalField name _ fun value mem => ?_
    obtain ⟨allows, found, rfl⟩ := Option.map_eq_some_iff.mp mem
    exact (wellFormed scope allows found).isFull
  exact (scope "own" .own).append (scope "any" .any)

theorem Speaks.toFields_ne_nil (speaks : pair.Speaks) : pair.toFields ≠ [] := by
  obtain ⟨allows, own, -⟩ | ⟨allows, any, -⟩ := speaks
  · simp [toFields, own, optionalField]
  · simp [toFields, any, optionalField]

end ScopedAllows

theorem ActionPage.WellFormed.isFull {page : ActionPage} (wellFormed : page.WellFormed)
    (speaks : page.Speaks) : page.toValue.IsFull := by
  refine .obj _ ?_ (((fullFields_allowField page.allow wellFormed.allow).append
    wellFormed.scopes.fullFields).append (fullFields_tableField "state" _ page.states ?_))
  · obtain decided | scope | state := speaks
    · simp [allowField_ne_nil _ decided]
    · simp [scope.toFields_ne_nil]
    · simp [tableField_ne_nil _ _ _ (present_of_exists_mem state)]
  · intro entry mem
    obtain ⟨-, pair, pairSpeaks⟩ := wellFormed.states entry mem
    exact .obj _ pairSpeaks.toFields_ne_nil pair.fullFields

theorem ModelPage.WellFormed.isFull {page : ModelPage} (wellFormed : page.WellFormed)
    (speaks : page.Speaks) : page.toValue.IsFull := by
  refine isFull_page page.allow "action" _ page.actions wellFormed.allow
    (speaks.imp_right present_of_exists_mem) fun entry mem => ?_
  have action := wellFormed.actions entry mem
  exact action.wellFormed.isFull action.speaks

theorem ModelSection.WellFormed.isFull {part : ModelSection} (wellFormed : part.WellFormed)
    (speaks : part.Speaks) : part.toValue.IsFull := by
  refine isFull_page part.allow "model" _ part.models wellFormed.allow
    (speaks.imp_right present_of_exists_mem) fun entry mem => ?_
  obtain ⟨-, page, pageSpeaks⟩ := wellFormed.models entry mem
  exact page.isFull pageSpeaks

theorem ModulePage.WellFormed.isFull {page : ModulePage} (wellFormed : page.WellFormed)
    (speaks : page.Speaks) : page.toValue.IsFull :=
  isFull_page page.allow "method" _ page.methods wellFormed.allow
    (speaks.imp_right present_of_exists_mem) fun entry mem =>
      (wellFormed.methods entry mem).2.isFull

theorem ModuleSection.WellFormed.isFull {part : ModuleSection} (wellFormed : part.WellFormed)
    (speaks : part.Speaks) : part.toValue.IsFull := by
  refine isFull_page part.allow "module" _ part.modules wellFormed.allow
    (speaks.imp_right present_of_exists_mem) fun entry mem => ?_
  obtain ⟨-, page, pageSpeaks⟩ := wellFormed.modules entry mem
  exact page.isFull pageSpeaks

theorem RouteBranch.WellFormed.isFull {branch : RouteBranch} (wellFormed : branch.WellFormed)
    (speaks : branch.Speaks) : branch.toValue.IsFull := by
  induction branch using RouteBranch.induction with
  | step branch ih =>
      obtain ⟨_, allow, methods, -, below, speak⟩ := wellFormed
      rw [toValue_eq]
      refine .obj _ ?_ ((fullFields_allowField branch.allow allow).append
        ((fullFields_tableField "method" _ branch.methods fun entry mem =>
          (methods entry mem).2.isFull).append
          (fullFields_tableField "path" _ branch.paths fun entry mem =>
            ih entry mem (below entry mem) (speak entry mem))))
      cases speaks with
      | ofPath _ decided => simp [allowField_ne_nil _ decided]
      | ofMethod _ entry mem decided =>
          simp [tableField_ne_nil _ _ _ (List.ne_nil_of_mem mem)]
      | ofBranch _ entry mem speaks =>
          simp [tableField_ne_nil _ _ _ (List.ne_nil_of_mem mem)]

namespace Rulebook

/-- The sections of a well-formed rulebook are shown without empty objects. -/
theorem WellFormed.isFull {book : Rulebook} (wellFormed : book.WellFormed)
    (resource : Resource) : ∀ shown ∈ book.sectionValue? resource, shown.IsFull := by
  intro shown mem
  cases resource with
  | blanket => cases mem
  | model =>
      obtain ⟨part, found, rfl⟩ := Option.map_eq_some_iff.mp mem
      obtain ⟨good, speaks⟩ := wellFormed.models part found
      exact good.isFull speaks
  | module =>
      obtain ⟨part, found, rfl⟩ := Option.map_eq_some_iff.mp mem
      obtain ⟨good, speaks⟩ := wellFormed.modules part found
      exact good.isFull speaks
  | route =>
      obtain ⟨root, found, rfl⟩ := Option.map_eq_some_iff.mp mem
      obtain ⟨good, speaks⟩ := wellFormed.routes root found
      exact good.isFull speaks

/-- **Rulebooks are well-formed**, whatever rules they are given, alone or together, and
whether or not some of the rules are rejected. None of their sections shows an empty object. -/
theorem wellFormed_afterAll (calls : List RuleCall) :
    (afterAll calls).WellFormed ∧
      ∀ resource, ∀ shown ∈ (afterAll calls).sectionValue? resource, shown.IsFull :=
  ⟨.afterAll calls, (WellFormed.afterAll calls).isFull⟩

end Rulebook

end RoleAccess
