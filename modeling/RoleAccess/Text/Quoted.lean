import RoleAccess.Text.Hex
import RoleAccess.Text.Printable
set_option autoImplicit false

/-! # Quoted texts and byte strings

How a text or a byte string is shown inside a message. Single quotes are used unless the
text holds a single quote and no double quote. The quote in use, the backslash and the
three common control characters have a two-character escape; other unprintable characters
are written by their number, with the fewest of two, four or eight digits that fit.
-/

namespace RoleAccess.Text

/-- The quote that is used unless the text speaks against it. -/
def singleQuote : CodePoint := '\x27'

/-- The quote of a text that holds single quotes only. -/
def doubleQuote : CodePoint := '\x22'

/-- The quote that needs the fewest escapes, the single one on a tie. -/
def chooseQuote (text : List CodePoint) : CodePoint :=
  if text.contains singleQuote && !text.contains doubleQuote then doubleQuote else singleQuote

/-- The escape of a character by its number. -/
def numberEscape (c : CodePoint) : List CodePoint :=
  let n := c.number
  if n < 0x100 then '\\' :: 'x' :: hex 2 n
  else if n < 0x10000 then '\\' :: 'u' :: hex 4 n
  else '\\' :: 'U' :: hex 8 n

/-- A character inside `quote`s, where `isPlain` characters stand for themselves. -/
def escapeChar (isPlain : CodePoint → Bool) (quote c : CodePoint) : List CodePoint :=
  if c = quote ∨ c = '\\' then ['\\', c]
  else if c = '\n' then ['\\', 'n']
  else if c = '\r' then ['\\', 'r']
  else if c = '\t' then ['\\', 't']
  else if isPlain c then [c]
  else numberEscape c

/-- A text in quotes, with `isPlain` characters unescaped. -/
def quoteWith (isPlain : CodePoint → Bool) (text : List CodePoint) : List CodePoint :=
  let quote := chooseQuote text
  quote :: text.flatMap (escapeChar isPlain quote) ++ [quote]

/-- A text in quotes. -/
def quote (text : Text) : Text := Text.ofList (quoteWith isPrintable text.toList)

/-- The characters of a byte string that are shown as themselves. -/
def isPrintableAscii (c : CodePoint) : Bool := 0x20 ≤ c.number && c.number ≤ 0x7e

/-- A byte string in quotes behind the letter `b`, each byte as the character of its number. -/
def quoteBytes (bytes : List UInt8) : Text :=
  Text.ofList ('b' :: quoteWith isPrintableAscii (bytes.map fun byte => Char.ofNat byte.toNat))

end RoleAccess.Text
