import RoleAccess.Value.Display
set_option autoImplicit false

/-! # The catalogue of error classes

Every error that the library reports belongs to a class with a stable code. The classes
form a tree: three categories stand below a common root, and the concrete classes below
the categories. A report is an error with its class, its wording, its details and an
advice, where the class supplies what is not given.
-/

namespace RoleAccess

/-- The classes of reported errors. -/
inductive ErrorClass where
  | accessControl
  | rule
  | invalidInput
  | invalidRule
  | request
  | invalidSession
  | invalidArgs
  | audit
  | invalidAuditState
  deriving DecidableEq, Repr

namespace ErrorClass

/-- The name of a class. -/
def name : ErrorClass → Text
  | accessControl => "AccessControlError"
  | rule => "RuleError"
  | invalidInput => "InvalidInput"
  | invalidRule => "InvalidRule"
  | request => "RequestError"
  | invalidSession => "InvalidSession"
  | invalidArgs => "InvalidArgs"
  | audit => "AuditError"
  | invalidAuditState => "InvalidAuditState"

/-- The code of a class. A category has a code of its own beside those of its members. -/
def code : ErrorClass → Text
  | accessControl => "AC-E000"
  | rule => "AC-E1XX"
  | invalidInput => "AC-E100"
  | invalidRule => "AC-E101"
  | request => "AC-E2XX"
  | invalidSession => "AC-E200"
  | invalidArgs => "AC-E201"
  | audit => "AC-E3XX"
  | invalidAuditState => "AC-E300"

/-- The wording of an error that comes without its own. -/
def wording : ErrorClass → Text
  | invalidInput => "Invalid rule input"
  | invalidRule => "Invalid rule"
  | invalidSession => "Invalid session"
  | invalidArgs => "Invalid access check arguments"
  | invalidAuditState => "Audit record is complete"
  | _ => "Unknown access control error"

/-- What a caller can do about an error; the categories give no advice. -/
def advice : ErrorClass → Text
  | invalidInput =>
      "Pass rules as a list of sequences holding one or more role names " ++
        "followed by a single rule string."
  | invalidRule =>
      "Use '<model|module|route|*>[:<clause>...]:<0|1>'. Deny (0) rules " ++
        "may only be set for the 'all' role."
  | invalidSession =>
      "Provide a session mapping with a string 'sessionId' and a list " ++
        "of 'roles', or construct the access control with strict=False."
  | invalidArgs => "Provide every argument required by the access check."
  | invalidAuditState =>
      "Audit records are sealed once the decision is set. Start a new " ++
        "access check to produce a new record."
  | _ => ""

/-- The class and the classes above it, from the most special to the root. -/
def lineage : ErrorClass → List ErrorClass
  | accessControl => [accessControl]
  | rule => [rule, accessControl]
  | invalidInput => [invalidInput, rule, accessControl]
  | invalidRule => [invalidRule, rule, accessControl]
  | request => [request, accessControl]
  | invalidSession => [invalidSession, request, accessControl]
  | invalidArgs => [invalidArgs, request, accessControl]
  | audit => [audit, accessControl]
  | invalidAuditState => [invalidAuditState, audit, accessControl]

/-- All classes, each category in front of its members. -/
def all : List ErrorClass :=
  [accessControl, rule, invalidInput, invalidRule, request, invalidSession, invalidArgs, audit,
   invalidAuditState]

/-- The classes that an error can be made of by code. -/
def concrete : List ErrorClass :=
  [invalidInput, invalidRule, invalidSession, invalidArgs, invalidAuditState]

/-- The class with the given name. -/
def ofName? (name : Text) : Option ErrorClass := all.find? fun c => c.name == name

/-- The concrete class with the given code. -/
def ofCode? (code : Text) : Option ErrorClass := concrete.find? fun c => c.code == code

end ErrorClass

/-- An error with everything that is said about it. What comes from outside can be any
value. -/
structure ErrorReport where
  cls : ErrorClass
  message : Value
  details : Value
  resolution : Value

namespace ErrorReport

/-- A report in which the class supplies a message and an advice that are not given, and
details that hold nothing are no details. -/
def of (cls : ErrorClass) (message details resolution : Value) : ErrorReport :=
  { cls
    message := if message.isNull then .str cls.wording else message
    details := if details.truthy then details else .obj []
    resolution := if resolution.isNull then .str cls.advice else resolution }

/-- The report of an error of the library itself, which brings its own message and takes the
advice of its class. -/
def raised (cls : ErrorClass) (message : Text) (details : Table Value) : ErrorReport :=
  of cls (.str message) (.obj details) .null

/-- The report in one line. -/
def display (report : ErrorReport) : Text :=
  report.cls.name ++ "(code=" ++ Text.quote report.cls.code ++ ", message=" ++
    report.message.display ++ ")"

/-- The report as data; details and an advice that hold nothing are left out. -/
def toValue (report : ErrorReport) : Value :=
  let head : Table Value := [("code", .str report.cls.code), ("message", report.message)]
  let detail : Table Value :=
    if report.details.truthy then [("detail", report.details)] else []
  let resolution : Table Value :=
    if report.resolution.truthy then [("resolution", report.resolution)] else []
  .obj [("error", .obj (head ++ detail ++ resolution))]

end ErrorReport

end RoleAccess
