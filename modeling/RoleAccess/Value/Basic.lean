import RoleAccess.Number.Binary64
import RoleAccess.Table
set_option autoImplicit false

/-! # Values

Sessions, request arguments and rule sources come from outside and can hold anything, so
they are values of one dynamic type. This file holds the type, the test that decides
whether a value counts as given, and the uses a value can be put to: being walked through,
and being looked up in a table with text keys. A value that cannot play such a part is
misused, and each kind of misuse has its own name.
-/

namespace RoleAccess

/-- Data from outside. -/
inductive Value where
  | null
  | bool (b : Bool)
  | int (n : Int)
  | float (x : Binary64)
  | str (s : Text)
  | bytes (data : List UInt8)
  | list (items : List Value)
  | tuple (items : List Value)
  | obj (fields : List (Text × Value))
  deriving Inhabited

/-- The use of a value or of an operation in a way that has no meaning. -/
inductive Misuse where
  /-- A list, an object, or a tuple that holds one was used as a key. -/
  | notAKey
  /-- A value without elements was walked through. -/
  | notIterable
  /-- A look-up was made in a value that is no object. -/
  | notAMapping
  /-- A byte string was used as a path. -/
  | pathOfBytes
  /-- A value other than a text or a byte string was used as a path. -/
  | notAPath
  /-- A required argument is absent. -/
  | missingArgument (name : Text)
  /-- An argument is given that the operation does not have. -/
  | unknownArgument (name : Text)
  /-- Something that is no object was given for named arguments. -/
  | notArguments
  /-- An argument is given twice. -/
  | repeatedArgument (name : Text)
  /-- An audit record was asked of something that keeps none. -/
  | noRecord
  deriving DecidableEq, Repr

namespace Value

/-- Whether a value counts as given: nothing, zeros and whatever is empty do not. -/
def truthy : Value → Bool
  | null => false
  | bool b => b
  | int n => n != 0
  | float x => !x.isZero
  | str s => s != ""
  | bytes data => !data.isEmpty
  | list items => !items.isEmpty
  | tuple items => !items.isEmpty
  | obj fields => !fields.isEmpty

/-- Whether a value is absent. -/
def isNull : Value → Bool
  | null => true
  | _ => false

/-- The value is this text. -/
def isText (text : Text) : Value → Bool
  | str s => s == text
  | _ => false

/-- The value is a text with at least one character. -/
def isNonEmptyText : Value → Bool
  | str s => s != ""
  | _ => false

/-- The text a value is. -/
def text? : Value → Option Text
  | str s => some s
  | _ => none

/-- The items of a list or a tuple. -/
def items? : Value → Option (List Value)
  | list items => some items
  | tuple items => some items
  | _ => none

/-- The field of an object, nothing if it is absent. -/
def field (name : Text) (fields : Table Value) : Value :=
  (fields.find? name).getD null

/-- A table of texts as a value. -/
def ofTexts (table : Table Text) : Value := obj (table.mapValues str)

/-! ## Keys -/

mutual

/-- Lists and objects are no keys, and neither is a tuple that holds one. -/
def isKey : Value → Bool
  | list _ => false
  | obj _ => false
  | tuple items => areKeys items
  | _ => true

/-- All of the values are keys. -/
def areKeys : List Value → Bool
  | [] => true
  | item :: rest => isKey item && areKeys rest

end

/-! ## Elements -/

/-- The values that a walk through a value meets: a text has its characters, an object its
field names, and a byte string its numbers. -/
def elements : Value → Except Misuse (List Value)
  | list items => .ok items
  | tuple items => .ok items
  | str s => .ok (s.toList.map fun c => str (Text.ofList [c]))
  | bytes data => .ok (data.map fun byte => int byte.toNat)
  | obj fields => .ok (fields.map fun entry => str entry.1)
  | _ => .error .notIterable

end Value

namespace Table

variable {α : Type}

/-- The entry of a table under a key that can be any value. Only texts are present, and a
value that is no key at all is refused, even by an empty table. -/
def lookup (table : Table α) (key : Value) : Except Misuse (Option α) :=
  match key with
  | .str s => .ok (table.find? s)
  | key => if key.isKey then .ok none else .error .notAKey

@[simp] theorem lookup_str (table : Table α) (s : Text) :
    table.lookup (.str s) = .ok (table.find? s) := rfl

end Table

end RoleAccess
