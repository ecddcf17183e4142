import RoleAccess.Audit.Record
import RoleAccess.Config
import RoleAccess.Request.Fault
import RoleAccess.Rule.Fault
import RoleAccess.Value.Canonical
import RoleAccess.Value.Fields
set_option autoImplicit false

/-! # Failures

Every way in which an operation of the library can end without a result. Rejected rules,
refused requests and changes of complete records are reported errors with a class and a
code; the others say that an operation was not used as it is meant to be.
-/

namespace RoleAccess

/-- Why an operation has no result. -/
inductive Failure where
  | rule (e : RuleFault)
  | request (e : RequestFault)
  | audit (e : AuditFault)
  | record (e : RecordFault)
  | encoding (e : EncodingFault)
  | config (faults : List ConfigFault)
  | fields (e : FieldsFault)
  | unknownCode (code : Value)
  | misuse (m : Misuse)

/-- The report of a failure that has a class and a code. -/
def Failure.report? : Failure → Option ErrorReport
  | rule e => some (.raised e.cls e.message e.details)
  | request e => some (.raised e.cls e.message e.details)
  | audit e => some (.raised .invalidAuditState e.message e.details)
  | _ => none

/-- The report for a code of a concrete class; a message that holds nothing counts as none. -/
def ErrorReport.ofCode (code message : Value) : Except Failure ErrorReport :=
  match code.text?.bind ErrorClass.ofCode? with
  | some cls => .ok (of cls (if message.truthy then message else .null) .null .null)
  | none => .error (if code.isKey then .unknownCode code else .misuse .notAKey)

end RoleAccess
