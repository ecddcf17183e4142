import RoleAccess.Number.Shortest
import RoleAccess.Text.Quoted
import RoleAccess.Value.Basic
set_option autoImplicit false

/-! # Values in messages

The text of a value inside a message: texts are quoted, numbers are written in decimal,
collections show their items. A text that stands for itself is not quoted.
-/

namespace RoleAccess.Value

/-- Numbers are written positionally from `10^-4` up to `10^16`, otherwise with an exponent
of at least two digits. -/
def numberLayout : Binary64.Layout := { least := -4, bound := 16, exponentDigits := 2 }

/-- The text of a truth value. -/
def displayBool (b : Bool) : Text := if b then "True" else "False"

mutual

/-- The text of a value inside a message. -/
def display : Value → Text
  | null => "None"
  | bool b => displayBool b
  | int n => toString n
  | float x => String.ofList (x.render numberLayout)
  | str s => Text.quote s
  | bytes data => Text.quoteBytes data
  | list items => "[" ++ Text.intercalate ", " (displayItems items) ++ "]"
  | tuple items =>
      match displayItems items with
      | [single] => "(" ++ single ++ ",)"
      | shown => "(" ++ Text.intercalate ", " shown ++ ")"
  | obj fields => "\x7b" ++ Text.intercalate ", " (displayFields fields) ++ "\x7d"

/-- The texts of the items. -/
def displayItems : List Value → List Text
  | [] => []
  | item :: rest => display item :: displayItems rest

/-- The texts of the fields, each with its quoted name. -/
def displayFields : List (Text × Value) → List Text
  | [] => []
  | (name, value) :: rest => (Text.quote name ++ ": " ++ display value) :: displayFields rest

end

/-- A text stands for itself; any other value is shown as inside a message. -/
def plain : Value → Text
  | str s => s
  | value => display value

/-- An optional text inside a message. -/
def displayText? : Option Text → Text
  | some s => Text.quote s
  | none => "None"

end RoleAccess.Value
