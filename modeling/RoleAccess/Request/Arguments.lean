import RoleAccess.Value.Basic
set_option autoImplicit false

/-! # Named arguments

The arguments of an operation come by name. An operation has required and optional
arguments; it is not carried out if a required one is absent or one is given that it does
not have. An optional argument that is absent counts as nothing.
-/

namespace RoleAccess

/-- The arguments of an operation by name. -/
abbrev Arguments := Table Value

namespace Arguments

/-- The first of the required names that is absent. -/
def firstMissing? (required : List Text) (args : Arguments) : Option Text :=
  required.find? fun name => (args.find? name).isNone

/-- The first argument whose name is not among those known. -/
def firstUnknown? (known : List Text) (args : Arguments) : Option Text :=
  args.keys.find? fun name => !known.contains name

/-- Checks the names of the arguments. -/
def check (required optional : List Text) (args : Arguments) : Except Misuse Unit :=
  match args.firstUnknown? (required ++ optional) with
  | some name => .error (.unknownArgument name)
  | none =>
      match args.firstMissing? required with
      | some name => .error (.missingArgument name)
      | none => .ok ()

/-- The arguments that a value spreads into, none if it is absent. -/
def spread : Option Value → Except Misuse Arguments
  | none => .ok []
  | some (.obj fields) => .ok fields
  | some _ => .error .notArguments

/-- The argument of a name, nothing if it is absent. -/
def get (args : Arguments) (name : Text) : Value := Value.field name args

end Arguments

end RoleAccess
