import RoleAccess.Number.Binary64
set_option autoImplicit false

/-! # Shortest decimal text of a floating-point number

The digits are the fewest that read back as the same number, and of those the nearest to
it. The reals that read back as `m · 2^e` form an interval around it, half a unit wide on
either side, except below a power of two, where the lower half is a quarter; its ends
belong to it exactly when `m` is even. For one digit, two digits and so on, the two
neighbours of the number on the decimal grid are tested against the interval in exact
integer arithmetic, and the first grid with a hit wins.
-/

namespace RoleAccess.Binary64

/-- A positive decimal number `0.d₁d₂…dₙ · 10^point`. -/
structure Decimal where
  digits : List Char
  point : Int
  deriving DecidableEq, Repr

/-- The reals that read back as one positive number, as fractions over a common
denominator. -/
structure Neighbourhood where
  low : Nat
  value : Nat
  high : Nat
  denominator : Nat
  /-- Whether the ends read back as the number too. -/
  closed : Bool
  deriving Repr

/-- The neighbourhood of `mantissa · 2^exponent`. -/
def Neighbourhood.of (mantissa : Nat) (exponent : Int) : Neighbourhood :=
  let scale := Nat.pow 2 (exponent - 2).toNat
  let below := if mantissa = Nat.pow 2 52 ∧ -1074 < exponent then 1 else 2
  { low := (4 * mantissa - below) * scale
    value := 4 * mantissa * scale
    high := (4 * mantissa + 2) * scale
    denominator := Nat.pow 2 (2 - exponent).toNat
    closed := mantissa % 2 = 0 }

/-- The number of decimal digits of `n`. -/
def decimalLength (n : Nat) : Nat := (Nat.toDigits 10 n).length

/-- The `p` with `10^(p-1) ≤ num / den < 10^p`, for a positive fraction. -/
def leadingPlace (num den : Nat) : Int :=
  if den ≤ num then decimalLength (num / den)
  else 1 - decimalLength ((den + num - 1) / num - 1)

/-- The multiple of `10^place` that reads back as the number: its lower or upper neighbour on
that grid, whichever is nearer, an even multiple on a tie. -/
def Neighbourhood.onGrid (n : Neighbourhood) (place : Int) : Option Nat :=
  let up := Nat.pow 10 (-place).toNat
  let unit := n.denominator * Nat.pow 10 place.toNat
  let floor := n.value * up / unit
  let admits (q : Nat) : Bool :=
    if n.closed then n.low * up ≤ q * unit && q * unit ≤ n.high * up
    else n.low * up < q * unit && q * unit < n.high * up
  let upperIsNearer : Bool :=
    let doubled := 2 * n.value * up
    let middle := (2 * floor + 1) * unit
    middle < doubled || (middle == doubled && floor % 2 == 1)
  match admits floor, admits (floor + 1) with
  | true, true => some (if upperIsNearer then floor + 1 else floor)
  | true, false => some floor
  | false, true => some (floor + 1)
  | false, false => none

/-- The number `multiple · 10^place` without its trailing zeros. -/
def Decimal.ofMultiple (multiple : Nat) (place : Int) : Decimal :=
  let digits := Nat.toDigits 10 multiple
  { digits := (digits.reverse.dropWhile (· == '0')).reverse
    point := place + digits.length }

/-- The shortest decimal that reads back as the positive number `mantissa · 2^exponent`.
Seventeen digits always suffice. -/
def shortest (mantissa : Nat) (exponent : Int) : Decimal :=
  let n := Neighbourhood.of mantissa exponent
  let lead := leadingPlace n.value n.denominator
  let found := (List.range 17).findSome? fun i : Nat =>
    let place : Int := lead - ((i : Int) + 1)
    (n.onGrid place).map fun multiple => Decimal.ofMultiple multiple place
  found.getD { digits := ['0'], point := 1 }

/-! ## Layout -/

/-- Where positional notation ends and how an exponent is written. -/
structure Layout where
  /-- The least decimal exponent that is written positionally. -/
  least : Int
  /-- The first decimal exponent that is too great for it. -/
  bound : Int
  /-- The fewest digits of a written exponent. -/
  exponentDigits : Nat

/-- The text of `0.d₁d₂…dₙ · 10^point` without an exponent. -/
def Decimal.positional (d : Decimal) : List Char :=
  let n : Int := d.digits.length
  if d.point ≤ 0 then
    '0' :: '.' :: (List.replicate (-d.point).toNat '0' ++ d.digits)
  else if n ≤ d.point then
    d.digits ++ List.replicate (d.point - n).toNat '0' ++ ['.', '0']
  else d.digits.take d.point.toNat ++ '.' :: d.digits.drop d.point.toNat

/-- The text with one digit in front of the point and a signed exponent. -/
def Decimal.scientific (d : Decimal) (exponentDigits : Nat) : List Char :=
  let exponent := d.point - 1
  let shown := Nat.toDigits 10 exponent.natAbs
  let fraction :=
    match d.digits.drop 1 with
    | [] => []
    | rest => '.' :: rest
  d.digits.take 1 ++ fraction ++
    'e' :: (if exponent < 0 then '-' else '+') ::
    (List.replicate (exponentDigits - shown.length) '0' ++ shown)

/-- The text of a positive decimal. -/
def Layout.text (layout : Layout) (d : Decimal) : List Char :=
  let exponent := d.point - 1
  if layout.least ≤ exponent ∧ exponent < layout.bound then d.positional
  else d.scientific layout.exponentDigits

/-- The text of a number by its shortest digits. -/
def render (layout : Layout) : Binary64 → List Char
  | nan => ['n', 'a', 'n']
  | infinity negative => (if negative then ['-'] else []) ++ ['i', 'n', 'f']
  | finite negative mantissa exponent =>
      (if negative then ['-'] else []) ++
        (if mantissa = 0 then ['0', '.', '0'] else layout.text (shortest mantissa exponent))

end RoleAccess.Binary64
