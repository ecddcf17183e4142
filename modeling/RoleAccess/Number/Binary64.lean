set_option autoImplicit false

/-! # Binary floating-point numbers

The values of the 64-bit binary interchange format as data: a number that is not one, two
infinities, and signed multiples of a power of two. Arithmetic is not needed; what is asked
of such a number is its exact value.
-/

namespace RoleAccess

/-- A 64-bit floating-point number. -/
inductive Binary64 where
  | nan
  | infinity (negative : Bool)
  | finite (negative : Bool) (mantissa : Nat) (exponent : Int)
  deriving DecidableEq, Repr

namespace Binary64

/-- The number with the given sign, exponent and fraction fields. -/
def ofBits (bits : UInt64) : Binary64 :=
  let negative := decide (bits.toNat / Nat.pow 2 63 = 1)
  let exponent : Nat := bits.toNat / Nat.pow 2 52 % Nat.pow 2 11
  let fraction := bits.toNat % Nat.pow 2 52
  if exponent = 2047 then
    if fraction = 0 then infinity negative else nan
  else if exponent = 0 then finite negative fraction (-1074)
  else finite negative (fraction + Nat.pow 2 52) ((exponent : Int) - 1075)

/-- The exact value of a finite number. -/
def toRat? : Binary64 → Option Rat
  | finite negative mantissa exponent =>
      let magnitude : Int := mantissa * Nat.pow 2 exponent.toNat
      some (mkRat (if negative then -magnitude else magnitude) (Nat.pow 2 (-exponent).toNat))
  | _ => none

/-- Zero of either sign. -/
def isZero : Binary64 → Bool
  | finite _ mantissa _ => mantissa == 0
  | _ => false

/-- The value of a number without a fractional part. -/
def toInt? (x : Binary64) : Option Int :=
  match x.toRat? with
  | some value => if value.den = 1 then some value.num else none
  | none => none

/-- Numerical equality: zeros are equal whatever their sign and `nan` equals nothing. -/
def same : Binary64 → Binary64 → Bool
  | infinity a, infinity b => a == b
  | x, y =>
      match x.toRat?, y.toRat? with
      | some a, some b => a == b
      | _, _ => false

/-- Equality with an integer, without rounding. -/
def sameInt (x : Binary64) (n : Int) : Bool :=
  match x.toRat? with
  | some value => value == (n : Rat)
  | none => false

end Binary64

end RoleAccess
