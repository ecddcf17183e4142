import RoleAccess.Audit.Entry
import RoleAccess.Failure.Catalogue
import RoleAccess.Value.Display
set_option autoImplicit false

/-! # Audit records

A record belongs to one check. It is open while the check runs and takes entries, a
decision and a scope; it is complete once the check's last answer is set, and from then on
refuses every change. The last answer is the decision, except for a check of the widest
scope, which makes up to two decisions and ends with the scope.
-/

namespace RoleAccess

/-- The kinds of checks. -/
inductive CheckKind where
  | model
  | modelScope
  | module
  | route
  deriving DecidableEq, Repr

namespace CheckKind

/-- The written form of a kind. -/
def name : CheckKind → Text
  | model => "model"
  | modelScope => "modelScope"
  | module => "module"
  | route => "route"

/-- Reads a kind. -/
def ofName? (name : Text) : Option CheckKind :=
  [model, modelScope, module, route].find? fun kind => kind.name == name

end CheckKind

/-- The changes that can be made to a record. -/
inductive AuditChange where
  | entry
  | decision
  | scope
  deriving DecidableEq, Repr

/-- The name of a change. -/
def AuditChange.name : AuditChange → Text
  | entry => "set_rule"
  | decision => "set_allow"
  | scope => "set_scope"

/-- A change of a complete record. -/
structure AuditFault where
  change : AuditChange
  kind : CheckKind
  id : Value

namespace AuditFault

/-- The wording of the error. -/
def message (e : AuditFault) : Text := "cannot " ++ e.change.name ++ " on complete audit record"

/-- What the error is about. -/
def details (e : AuditFault) : Table Value :=
  [("operation", .str e.change.name), ("allow_type", .str e.kind.name),
   ("access_control_id", e.id)]

end AuditFault

/-- Why no record can be opened. -/
inductive RecordFault where
  | noId
  | badKind (value : Value)

/-- The wording of the error. -/
def RecordFault.message : RecordFault → Text
  | noId => "access_control_id required"
  | badKind value => "invalid allow_type " ++ value.display

/-- The record of one check. -/
structure Record where
  /-- The id of the rules the check was decided under. -/
  id : Value
  kind : CheckKind
  /-- The arguments of the check. -/
  args : Table Value
  entries : List Entry := []
  decision : Value := .null
  scope : Option Scope := none
  complete : Bool := false

namespace Record

/-- An open record for an id, a kind and the arguments, each of which can be any value. -/
def open? (id kind : Value) (args : Table Value) : Except RecordFault Record :=
  if id.truthy then
    match kind.text?.bind CheckKind.ofName? with
    | some kind => .ok { id, kind, args }
    | none => .error (.badKind kind)
  else .error .noId

/-- The record, unless it is complete. -/
def requireOpen (record : Record) (change : AuditChange) : Except AuditFault Record :=
  if record.complete then .error { change, kind := record.kind, id := record.id }
  else .ok record

/-- Adds an entry. -/
def addEntry (record : Record) (entry : Entry) : Except AuditFault Record :=
  (record.requireOpen .entry).map fun r => { r with entries := r.entries ++ [entry] }

/-- Adds entries in order. -/
def addEntries (record : Record) : List Entry → Except AuditFault Record
  | [] => .ok record
  | entry :: rest =>
      match record.addEntry entry with
      | .error e => .error e
      | .ok next => next.addEntries rest

/-- Sets the decision, which completes the record unless a scope is still to come. -/
def setDecision (record : Record) (decision : Value) : Except AuditFault Record :=
  (record.requireOpen .decision).map fun r =>
    { r with decision, complete := decide (r.kind ≠ .modelScope) }

/-- Sets the scope and completes the record. -/
def setScope (record : Record) (scope : Option Scope) : Except AuditFault Record :=
  (record.requireOpen .scope).map fun r => { r with scope, complete := true }

/-- A scope as data. -/
def scopeValue : Option Scope → Value
  | some scope => .str scope.name
  | none => .null

/-- The record as data, with its entries in some form. -/
def fieldsWith (record : Record) (shown : List Value) : Table Value :=
  [("access_control_id", record.id), ("allow_args", .obj record.args),
   ("allow_type", .str record.kind.name), ("rules", .list shown),
   ("allow", record.decision), ("scope", scopeValue record.scope),
   ("complete", .bool record.complete)]

/-- The record as data. An entry given from outside that spells no fields makes the record
unreadable. -/
def toFields (record : Record) : Except FieldsFault (Table Value) :=
  (record.entries.mapM Entry.toValue).map record.fieldsWith

/-- The record as data, with each entry in the form that it was given in. -/
def view (record : Record) : Table Value := record.fieldsWith (record.entries.map Entry.source)

/-- A scope in the one-line form of a record. -/
def displayScope : Option Scope → Text
  | none => "None"
  | some .own => "<Scope.OWN: 'own'>"
  | some .any => "<Scope.ANY: 'any'>"

/-- The record in one line. -/
def display (record : Record) : Text :=
  "AccessAudit(allow_type=" ++ Text.quote record.kind.name ++
    ", allow=" ++ record.decision.display ++
    ", scope=" ++ displayScope record.scope ++
    ", complete=" ++ Value.displayBool record.complete ++ ")"

end Record

end RoleAccess
