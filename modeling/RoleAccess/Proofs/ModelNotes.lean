import RoleAccess.Proofs.Notes
import RoleAccess.Proofs.TypedQueries
set_option autoImplicit false

/-! # What a model decision notes

The notes of a model decision can be told from the decisions that the rulebook holds
(`Rulebook.modelNotes`). There is one that says whether the record is deleted, and one for each
of the three general levels that has decisions. If there are rules about the action, and it is
not creation, the states of the record follow, up to the first one that denies, and if none
does, the scopes of the action. Rules for own records are not consulted where those for any
records have settled the matter.

The one induction is over the states. It leaves the decision so far open, which the notes do
not depend on.
-/

namespace RoleAccess

section Reference

variable (roles : List Text) (scope : Scope) (allows : Scope → Option Allows)

end Reference

namespace Rulebook

variable (book : Rulebook) (roles : List Text) (q : ModelInquiry) (scope : Scope)

end Rulebook

/-! ## States -/

variable (roles : List Text) (scope : Scope)

section States

variable {page : ActionPage} {st : ModelStance}

end States

/-! ## Levels -/

namespace Rulebook

variable (book : Rulebook) (names : OwnerNames) (q : ModelInquiry)

end Rulebook

end RoleAccess
