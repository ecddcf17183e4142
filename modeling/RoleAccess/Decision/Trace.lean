import RoleAccess.Audit.Trail
import RoleAccess.Failure.Basic
set_option autoImplicit false

/-! # Traces

A decision is computed as a trace: the audit entries it makes on the way, in order, and
its result. What a decision comes to does not depend on where its entries are left; leaving
them on a trail is a separate step, which fails only if the record there is complete.
-/

namespace RoleAccess

/-- The entries a computation makes and its result. -/
structure Trace (α : Type) where
  entries : List Entry
  result : Except Failure α

namespace Trace

variable {α β : Type}

/-- A result without entries. -/
def done (a : α) : Trace α := { entries := [], result := .ok a }

/-- The entries of the first computation, then those of the second, which starts from the
result of the first. -/
def andThen (t : Trace α) (f : α → Trace β) : Trace β :=
  match t.result with
  | .error e => { entries := t.entries, result := .error e }
  | .ok a => { entries := t.entries ++ (f a).entries, result := (f a).result }

instance : Monad Trace where
  pure := done
  bind := andThen

/-- Makes an entry. -/
def note (entry : Entry) : Trace Unit := { entries := [entry], result := .ok () }

/-- A step that makes no entry and can be a misuse. -/
def ofUse (step : Except Misuse α) : Trace α :=
  { entries := [], result := step.mapError Failure.misuse }

/-- A step that makes no entry and can refuse the request. -/
def ofRequest (step : Except RequestFault α) : Trace α :=
  { entries := [], result := step.mapError Failure.request }

@[simp] theorem pure_eq (a : α) : (pure a : Trace α) = { entries := [], result := .ok a } := rfl

@[simp] theorem bind_eq (t : Trace α) (f : α → Trace β) : t >>= f = t.andThen f := rfl

/-- A step that is no misuse only gives its result. -/
@[simp] theorem ofUse_ok (a : α) : ofUse (.ok a) = done a := rfl

@[simp] theorem ofRequest_ok (a : α) : ofRequest (.ok a) = done a := rfl

theorem entries_andThen_ok (t : Trace α) (f : α → Trace β) (a : α) (h : t.result = .ok a) :
    (t.andThen f).entries = t.entries ++ (f a).entries := by
  simp [andThen, h]

theorem result_andThen_ok (t : Trace α) (f : α → Trace β) (a : α) (h : t.result = .ok a) :
    (t.andThen f).result = (f a).result := by
  simp [andThen, h]

/-- The result of two computations is told by the results of both. -/
theorem result_bind (t : Trace α) (f : α → Trace β) :
    (t >>= f).result = t.result >>= fun a => (f a).result := by
  rw [bind_eq, andThen]
  cases t.result <;> rfl

theorem result_andThen_eq_ok_iff (t : Trace α) (f : α → Trace β) (b : β) :
    (t.andThen f).result = .ok b ↔ ∃ a, t.result = .ok a ∧ (f a).result = .ok b := by
  rw [andThen]
  cases t.result <;> simp

end Trace

namespace Trail

variable {α : Type}

/-- Leaves the entries of a computation on a trail. -/
def run (trail : Trail) (t : Trace α) : Trail × Except Failure α :=
  match trail.addEntries t.entries with
  | .error e => (trail, .error (.audit e))
  | .ok next => (next, t.result)

/-- Leaves the entries of a decision on a trail, and then the decision. -/
def settle (trail : Trail) (t : Trace Bool) : Trail × Except Failure Bool :=
  match trail.run t with
  | (next, .error e) => (next, .error e)
  | (next, .ok allow) =>
      match next.setDecision (.bool allow) with
      | .error e => (next, .error (.audit e))
      | .ok last => (last, .ok allow)

/-- Leaves the scope on a trail. -/
def settleScope (trail : Trail) (scope : Option Scope) : Trail × Except Failure (Option Scope) :=
  match trail.setScope scope with
  | .error e => (trail, .error (.audit e))
  | .ok last => (last, .ok scope)

end Trail

end RoleAccess
