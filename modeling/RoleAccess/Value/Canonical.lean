import RoleAccess.Text.Split
import RoleAccess.Text.Utf8
import RoleAccess.Value.Display
set_option autoImplicit false

/-! # Canonical text of a value

The canonical form is a JSON text without blanks in which the fields of an object stand in
the order of their names by code point, integral numbers have no fraction, and a text is
escaped only where it must be. Two values that differ only in the order of fields have the
same canonical text. Byte strings and numbers that are not finite have none.
-/

namespace RoleAccess

/-- Why a value has no canonical text, or its canonical text no UTF-8 form. -/
inductive EncodingFault where
  | notFinite (number : Binary64)
  | byteString
  | surrogates (fault : SurrogateFault)
  deriving DecidableEq, Repr

/-- The wording of an encoding error. -/
def EncodingFault.message : EncodingFault → Text
  | notFinite number => Value.display (.float number) ++ " cannot be represented in JSON"
  | byteString => "cannot encode bytes as canonical JSON"
  | surrogates fault => fault.message

namespace Canonical

/-- A character inside a quoted text: the quote, the backslash and the control characters
below the space are escaped, nothing else is. -/
def escapeChar (c : CodePoint) : List CodePoint :=
  if c = '\x22' ∨ c = '\\' then ['\\', c]
  else if c = '\n' then ['\\', 'n']
  else if c = '\r' then ['\\', 'r']
  else if c = '\t' then ['\\', 't']
  else if c = '\x08' then ['\\', 'b']
  else if c = '\x0c' then ['\\', 'f']
  else if c.number < 0x20 then '\\' :: 'u' :: Text.hex 4 c.number
  else [c]

/-- Puts something between two marks. -/
def enclose (opening close : CodePoint) (body : List CodePoint) : List CodePoint :=
  opening :: body ++ [close]

/-- A quoted text. -/
def quote (text : Text) : List CodePoint :=
  enclose '\x22' '\x22' (text.toList.flatMap escapeChar)

/-- A number; an integral one has no fraction and zero has no sign. -/
def number (x : Binary64) : Except EncodingFault (List CodePoint) :=
  match x.toInt? with
  | some n => .ok (Text.ofString (toString n)).toList
  | none =>
      match x with
      | .finite .. => .ok ((x.render Value.numberLayout).map CodePoint.ofChar)
      | _ => .error (.notFinite x)

/-- The members of an object in the order of their names. -/
def sortMembers {α : Type} (members : List (Text × α)) : List (Text × α) :=
  members.mergeSort fun a b => decide (a.1 ≤ b.1)

mutual

/-- The canonical text of a value; of several faults the first in the order of the text is
reported. -/
def encode : Value → Except EncodingFault (List CodePoint)
  | .null => .ok ['n', 'u', 'l', 'l']
  | .bool true => .ok ['t', 'r', 'u', 'e']
  | .bool false => .ok ['f', 'a', 'l', 's', 'e']
  | .int n => .ok (Text.ofString (toString n)).toList
  | .float x => number x
  | .str s => .ok (quote s)
  | .bytes _ => .error .byteString
  | .list items => do return enclose '[' ']' (Text.join ',' (← encodeItems items))
  | .tuple items => do return enclose '[' ']' (Text.join ',' (← encodeItems items))
  | .obj fields => do
      let members ← (sortMembers (encodeFields fields)).mapM fun member => do
        return quote member.1 ++ (':' : CodePoint) :: (← member.2)
      return enclose '\x7b' '\x7d' (Text.join ',' members)

/-- The canonical texts of the items, up to the first fault. -/
def encodeItems : List Value → Except EncodingFault (List (List CodePoint))
  | [] => .ok []
  | item :: rest => do
      let first ← encode item
      return first :: (← encodeItems rest)

/-- Each field with the canonical text of its value. -/
def encodeFields : List (Text × Value) → List (Text × Except EncodingFault (List CodePoint))
  | [] => []
  | (name, value) :: rest => (name, encode value) :: encodeFields rest

end

/-- The canonical text of a value. -/
def text (value : Value) : Except EncodingFault Text := Text.ofList <$> encode value

end Canonical

end RoleAccess
