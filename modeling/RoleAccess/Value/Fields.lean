import RoleAccess.Value.Display
import RoleAccess.Value.Equality
set_option autoImplicit false

/-! # Values as fields

Where fields are asked for, an object gives its own, and any other value that can be walked
through spells them as pairs of a key and a value. Two keys that denote the same thing are
one: the first gives the field its place and its name, and the last gives it its value.
-/

namespace RoleAccess

/-- Why a value spells no fields. -/
inductive FieldsFault where
  /-- The value or one of its elements has no elements, or the first part of a pair is no
  key. -/
  | misuse (m : Misuse)
  /-- The element at a position has another number of parts than two. -/
  | notAPair (position parts : Nat)
  deriving DecidableEq, Repr

/-- The wording for an element that is no pair. -/
def FieldsFault.pairMessage (position parts : Nat) : Text :=
  "dictionary update sequence element #" ++ toString position ++ " has length " ++
    toString parts ++ "; 2 is required"

namespace Value

/-- The name that a key gives a field. -/
def fieldName : Value → Text
  | null => "null"
  | bool b => if b then "true" else "false"
  | float .nan => "NaN"
  | float (.infinity negative) => if negative then "-Infinity" else "Infinity"
  | key => key.plain

/-- Sets the value of a key. A key that denotes the same thing stays and takes the value; a
new key comes last. -/
def setKey (key value : Value) : List (Value × Value) → List (Value × Value)
  | [] => [(key, value)]
  | (k, v) :: rest => if k.same key then (k, value) :: rest else (k, v) :: setKey key value rest

/-- The pair that the element at a position is. -/
def pairOf (position : Nat) (element : Value) : Except FieldsFault (Value × Value) :=
  match element.elements with
  | .error m => .error (.misuse m)
  | .ok [key, value] => if key.isKey then .ok (key, value) else .error (.misuse .notAKey)
  | .ok parts => .error (.notAPair position parts.length)

/-- The pairs that some elements are, the first of which is at a position. -/
def pairsFrom (position : Nat) : List Value → Except FieldsFault (List (Value × Value))
  | [] => .ok []
  | element :: rest => do
      let first ← pairOf position element
      return first :: (← pairsFrom (position + 1) rest)

/-- The fields that pairs spell. -/
def fieldsOfPairs (pairs : List (Value × Value)) : Table Value :=
  let keyed := pairs.foldl (fun found pair => setKey pair.1 pair.2 found) []
  Table.overrideWith [] (keyed.map fun pair => (pair.1.fieldName, pair.2))

/-- The fields that a value spells. -/
def asFields : Value → Except FieldsFault (Table Value)
  | obj fields => .ok fields
  | value =>
      match value.elements with
      | .error m => .error (.misuse m)
      | .ok elements => (pairsFrom 0 elements).map fieldsOfPairs

/-- The fields of a value; nothing given is no fields. -/
def givenAsFields (value : Value) : Except FieldsFault (Table Value) :=
  if value.truthy then value.asFields else .ok []

end Value

end RoleAccess
