import RoleAccess.Decision.Level
import RoleAccess.Request.Basic
set_option autoImplicit false

/-! # Decisions about modules

A module decision starts from allowance and goes through the levels for all modules, for
the module and for the method; the last level that speaks decides.
-/

namespace RoleAccess

/-- The decision about a module, from its own level on. -/
def ModulePage.decision (page : ModulePage) (roles : Value) (r : ModuleRequest)
    (sofar : Bool) : Trace Bool := do
  let allow ← applyLevel roles "module" page.allow [] sofar
  let method ← Trace.ofUse (page.methods.lookup r.method)
  applyLevel roles "method" method [] allow

/-- The decision about modules, from the level for all of them on. -/
def ModuleSection.decision (part : ModuleSection) (roles : Value) (r : ModuleRequest)
    (sofar : Bool) : Trace Bool := do
  let allow ← applyLevel roles "global" part.allow [] sofar
  match ← Trace.ofUse (part.modules.lookup r.module) with
  | none => return allow
  | some page => page.decision roles r allow

namespace Rulebook

/-- The decision on a module request. -/
def moduleDecision (book : Rulebook) (roles : Value) (r : ModuleRequest) : Trace Bool :=
  match book.modules with
  | none => return true
  | some part => part.decision roles r true

/-- Decides a module request and leaves the audit on a trail. -/
def decideModule (book : Rulebook) (trail : Trail) (roles : Value) (r : ModuleRequest) :
    Trail × Except Failure Bool :=
  trail.settle (book.moduleDecision roles r)

end Rulebook

end RoleAccess
