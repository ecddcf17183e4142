import RoleAccess.Value.Basic
set_option autoImplicit false

/-! # Configuration

A policy is configured by three settings, each with a default. Settings are read from an
object whose other fields do not count; every wrong setting is reported, in a fixed order.
-/

namespace RoleAccess

/-- The settings of a policy. -/
structure Config where
  /-- Validate each request before looking at the rules. -/
  strict : Bool := true
  /-- Keep an audit record of each check that does not say otherwise. -/
  audit : Bool := true
  /-- The session field that names the owner of a model's records, unless the model has one of
  its own. -/
  ownerField : Text := "accountId"
  deriving DecidableEq, Repr

/-- What is wrong with a setting. -/
inductive ConfigFault where
  | notABool (field : Text)
  | notAText (field : Text)
  | notUnicode (field : Text)
  | emptyText (field : Text)
  deriving DecidableEq, Repr

namespace Config

/-- Reads a truth value. -/
def boolSetting (field : Text) (fallback : Bool) : Option Value → Except ConfigFault Bool
  | none => .ok fallback
  | some (.bool b) => .ok b
  | some _ => .error (.notABool field)

/-- Reads a text that is not empty. A text with surrogates is not taken for one. -/
def textSetting (field : Text) (fallback : Text) : Option Value → Except ConfigFault Text
  | none => .ok fallback
  | some (.str s) =>
      if s.toList.any CodePoint.isSurrogate then .error (.notUnicode field)
      else if s = "" then .error (.emptyText field)
      else .ok s
  | some _ => .error (.notAText field)

/-- The fault of a setting, if it has one. -/
def faultOf {α : Type} : Except ConfigFault α → List ConfigFault
  | .ok _ => []
  | .error fault => [fault]

/-- Reads the settings. They are validated as the fields of a strict, frozen record type are: a
field that is not given takes its default, a value of another type is not converted (so an
integer is no truth value), fields of other names are ignored, and each wrong field is reported
once, in the order of the declaration. -/
def ofFields (fields : Table Value) : Except (List ConfigFault) Config :=
  let strict := boolSetting "strict" true (fields.find? "strict")
  let audit := boolSetting "audit" true (fields.find? "audit")
  let name := textSetting "default_access_id_name" "accountId"
    (fields.find? "default_access_id_name")
  match strict, audit, name with
  | .ok strict, .ok audit, .ok ownerField => .ok { strict, audit, ownerField }
  | _, _, _ => .error (faultOf strict ++ faultOf audit ++ faultOf name)

/-- The settings as fields. -/
def toFields (config : Config) : Table Value :=
  [("strict", .bool config.strict), ("audit", .bool config.audit),
   ("default_access_id_name", .str config.ownerField)]

/-- Replaces the settings that are given. -/
def withOverrides (config : Config) (strict audit : Value) : Except (List ConfigFault) Config :=
  let named : Table Value := [("strict", strict), ("audit", audit)]
  let given := named.filter fun entry => !entry.2.isNull
  if given.isEmpty then .ok config else ofFields (config.toFields.overrideWith given)

end Config

end RoleAccess
