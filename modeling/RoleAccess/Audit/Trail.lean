import RoleAccess.Audit.Record
set_option autoImplicit false

/-! # Audit trails

A trail is where a check leaves its audit: a record, or nothing if auditing is off. A trail
that is off takes every change and keeps none.
-/

namespace RoleAccess

/-- Where a check leaves its audit. -/
inductive Trail where
  | off
  | kept (record : Record)

namespace Trail

/-- Applies a change to the record, if there is one. -/
def change (f : Record → Except AuditFault Record) : Trail → Except AuditFault Trail
  | off => .ok off
  | kept record => (f record).map kept

/-- Adds an entry. -/
def addEntry (trail : Trail) (entry : Entry) : Except AuditFault Trail :=
  trail.change (·.addEntry entry)

/-- Adds entries in order. -/
def addEntries (trail : Trail) (entries : List Entry) : Except AuditFault Trail :=
  trail.change (·.addEntries entries)

/-- Sets the decision. -/
def setDecision (trail : Trail) (decision : Value) : Except AuditFault Trail :=
  trail.change (·.setDecision decision)

/-- Sets the scope. -/
def setScope (trail : Trail) (scope : Option Scope) : Except AuditFault Trail :=
  trail.change (·.setScope scope)

/-- The record, if it is complete. -/
def completeRecord? : Trail → Option Record
  | kept record => if record.complete then some record else none
  | off => none

/-- The record as data; a trail that is off has none. -/
def toValue : Trail → Except FieldsFault Value
  | kept record => record.toFields.map .obj
  | off => .error (.misuse .noRecord)

/-- The record as data, with each entry in the form that it was given in. -/
def view : Trail → Except Misuse Value
  | kept record => .ok (.obj record.view)
  | off => .error .noRecord

/-- The trail in one line. -/
def display : Trail → Text
  | kept record => record.display
  | off => "NullAudit()"

end Trail

end RoleAccess
