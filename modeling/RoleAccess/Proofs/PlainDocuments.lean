import RoleAccess.Policy.Basic
import RoleAccess.Proofs.CanonicalText
import RoleAccess.Proofs.Documents
set_option autoImplicit false

/-! # Documents of rules have canonical texts

A rulebook is shown with truth values and objects only, whatever it holds, and ownership
fields are texts. There is therefore always a canonical text of them, which is what is digested
for a fingerprint.
-/

namespace RoleAccess

open Value (IsPlain)

variable {α : Type}

/-! ## Plain pages -/

theorem plainFields_tableField (name : Text) (shown : α → Value) (table : Table α)
    (plain : ∀ entry ∈ table, (shown entry.2).IsPlain) :
    AllFields IsPlain (tableField name shown table) :=
  allFields_tableField (fun fields _ plain => .obj fields plain) name shown table plain

theorem plainFields_allowField (allow : Option Allows) : AllFields IsPlain (allowField allow) := by
  refine allFields_optionalField "allow" _ fun value mem => ?_
  obtain ⟨allows, -, rfl⟩ := Option.map_eq_some_iff.mp mem
  exact .obj _ (allFields_mapValues Value.bool allows fun entry _ => .bool entry.2)

theorem Allows.isPlain_toValue (allows : Allows) : allows.toValue.IsPlain :=
  .obj _ (plainFields_allowField (some allows))

theorem ScopedAllows.plainFields_toFields (pair : ScopedAllows) :
    AllFields IsPlain pair.toFields := by
  have scope (name : Text) (allow : Option Allows) :
      AllFields IsPlain (optionalField name (allow.map Allows.toValue)) := by
    refine allFields_optionalField name _ fun value mem => ?_
    obtain ⟨allows, -, rfl⟩ := Option.map_eq_some_iff.mp mem
    exact allows.isPlain_toValue
  exact (scope "own" pair.own).append (scope "any" pair.any)

theorem ActionPage.isPlain_toValue (page : ActionPage) : page.toValue.IsPlain :=
  .obj _ (((plainFields_allowField page.allow).append page.scopes.plainFields_toFields).append
    (plainFields_tableField "state" _ page.states fun entry _ =>
      .obj _ entry.2.plainFields_toFields))

/-- A page with decisions of its own and one table of what is below it. -/
theorem isPlain_page (allow : Option Allows) (name : Text) (shown : α → Value)
    (table : Table α) (plain : ∀ entry ∈ table, (shown entry.2).IsPlain) :
    (Value.obj (allowField allow ++ tableField name shown table)).IsPlain :=
  .obj _ ((plainFields_allowField allow).append (plainFields_tableField name shown table plain))

theorem ModelSection.isPlain_toValue (part : ModelSection) : part.toValue.IsPlain := by
  refine isPlain_page part.allow "model" _ part.models fun entry _ => ?_
  exact isPlain_page _ "action" _ _ fun action _ => action.2.isPlain_toValue

theorem ModuleSection.isPlain_toValue (part : ModuleSection) : part.toValue.IsPlain := by
  refine isPlain_page part.allow "module" _ part.modules fun entry _ => ?_
  exact isPlain_page _ "method" _ _ fun method _ => method.2.isPlain_toValue

theorem RouteBranch.isPlain_toValue (branch : RouteBranch) : branch.toValue.IsPlain := by
  induction branch using RouteBranch.induction with
  | step branch ih =>
      have methods := plainFields_tableField "method" Allows.toValue branch.methods
        fun method _ => method.2.isPlain_toValue
      have paths := plainFields_tableField "path" RouteBranch.toValue branch.paths ih
      rw [toValue_eq]
      exact .obj _ ((plainFields_allowField branch.allow).append (methods.append paths))

theorem Rulebook.isPlain_toValue (book : Rulebook) : book.toValue.IsPlain := by
  refine .obj _ fun field mem => ?_
  obtain ⟨resource, -, mem⟩ := List.mem_flatMap.mp mem
  refine allFields_optionalField _ _ (fun value mem => ?_) field mem
  cases resource with
  | blanket => cases mem
  | model =>
      obtain ⟨part, -, rfl⟩ := Option.map_eq_some_iff.mp mem
      exact part.isPlain_toValue
  | module =>
      obtain ⟨part, -, rfl⟩ := Option.map_eq_some_iff.mp mem
      exact part.isPlain_toValue
  | route =>
      obtain ⟨root, -, rfl⟩ := Option.map_eq_some_iff.mp mem
      exact root.isPlain_toValue

/-! ## Fingerprints -/

theorem isPlain_payload (book : Rulebook) (ownerFields : Table Text) :
    (Fingerprint.payload book.toValue (.ofTexts ownerFields)).IsPlain := by
  have names : (Value.ofTexts ownerFields).IsPlain :=
    .obj _ (allFields_mapValues Value.str ownerFields fun entry _ => .str entry.2)
  refine .obj _ (List.forall_mem_cons.mpr ⟨names, List.forall_mem_cons.mpr ⟨?_, nofun⟩⟩)
  exact book.isPlain_toValue

/-- There is always a text to be digested. -/
theorem Fingerprint.exists_text (book : Rulebook) (ownerFields : Table Text) :
    ∃ found, text book.toValue (.ofTexts ownerFields) = .ok found :=
  ⟨_, Canonical.text_of_isPlain _ (isPlain_payload book ownerFields)⟩

end RoleAccess
