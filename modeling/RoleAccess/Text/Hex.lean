import RoleAccess.Text.Basic
set_option autoImplicit false

/-! # Hexadecimal digits

Fixed-width lower-case hexadecimal, as used by escapes and digests.
-/

namespace RoleAccess.Text

/-- The lower-case digit of a number below sixteen. -/
def hexDigit (n : Nat) : CodePoint :=
  Char.ofNat (if n < 10 then 48 + n else 87 + n)

/-- The last `width` hexadecimal digits of `n`, most significant first. -/
def hex : (width n : Nat) → List CodePoint
  | 0, _ => []
  | width + 1, n => hex width (n / 16) ++ [hexDigit (n % 16)]

/-- The hexadecimal text of a byte string, two digits a byte. -/
def hexBytes (bytes : List UInt8) : List CodePoint :=
  bytes.flatMap fun byte => hex 2 byte.toNat

end RoleAccess.Text
