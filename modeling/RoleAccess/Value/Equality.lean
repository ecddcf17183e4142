import RoleAccess.Value.Basic
set_option autoImplicit false

/-! # Equality of values

Two values are the same if they denote the same thing: truth values are the numbers zero
and one, numbers compare by their exact value whatever their form, objects compare
regardless of the order of their fields. A list is never a tuple and a text is never a
byte string.
-/

namespace RoleAccess.Value

/-- The integer that a truth value or an integer is. -/
def integer? : Value → Option Int
  | bool b => some (if b then 1 else 0)
  | int n => some n
  | _ => none

mutual

/-- Two values denote the same thing. -/
def same : Value → Value → Bool
  | null, null => true
  | bool a, y => sameInteger (if a then 1 else 0) y
  | int a, y => sameInteger a y
  | float a, float b => a.same b
  | float a, y =>
      match y.integer? with
      | some n => a.sameInt n
      | none => false
  | str a, str b => a == b
  | bytes a, bytes b => a == b
  | list a, list b => sameItems a b
  | tuple a, tuple b => sameItems a b
  | obj a, obj b => a.length == b.length && sameFields a b
  | _, _ => false
where
  /-- The value is a number equal to `n`. -/
  sameInteger (n : Int) (y : Value) : Bool :=
    match y.integer?, y with
    | some m, _ => n == m
    | none, float x => x.sameInt n
    | none, _ => false

/-- The same items in the same order. -/
def sameItems : List Value → List Value → Bool
  | [], [] => true
  | a :: as, b :: bs => same a b && sameItems as bs
  | _, _ => false

/-- Every field has a field of the same name and value in `others`. -/
def sameFields : List (Text × Value) → List (Text × Value) → Bool
  | [], _ => true
  | (name, a) :: rest, others =>
      (match Table.find? name others with
        | some b => same a b
        | none => false) && sameFields rest others

end

end RoleAccess.Value
