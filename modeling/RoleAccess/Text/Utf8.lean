import RoleAccess.Text.Quoted
set_option autoImplicit false

/-! # UTF-8

Every code point has a UTF-8 form but a surrogate. A text that holds one has none, and the fault
names the first surrogates that stand side by side.
-/

namespace RoleAccess

/-- None of the code points is a surrogate. -/
def CodePoint.areUnicode (points : List CodePoint) : Bool := points.all fun c => !c.isSurrogate

/-- Surrogates that stand side by side in a text, and the position of the first one. -/
structure SurrogateFault where
  position : Nat
  surrogates : List CodePoint
  deriving DecidableEq, Repr

/-- The wording of the error. -/
def SurrogateFault.message (fault : SurrogateFault) : Text :=
  match fault.surrogates with
  | [single] =>
      "\x27utf-8\x27 codec can\x27t encode character \x27" ++
        Text.ofList (Text.numberEscape single) ++ "\x27 in position " ++
        toString fault.position ++ ": surrogates not allowed"
  | surrogates =>
      "\x27utf-8\x27 codec can\x27t encode characters in position " ++
        toString fault.position ++ "-" ++ toString (fault.position + surrogates.length - 1) ++
        ": surrogates not allowed"

namespace Text

/-- The bytes of a code point that is no surrogate. -/
def bytesOf (c : CodePoint) : List UInt8 := String.utf8EncodeChar (Char.ofNat c.number)

/-- The UTF-8 form of a text. -/
def utf8 (text : Text) : Except SurrogateFault (List UInt8) :=
  match text.toList.findIdx? CodePoint.isSurrogate with
  | none => .ok (text.toList.flatMap bytesOf)
  | some position =>
      .error { position, surrogates := (text.toList.drop position).takeWhile CodePoint.isSurrogate }

/-- The UTF-8 form of a string is put together from those of its characters. -/
theorem utf8_ofString (s : String) :
    (ofString s).utf8 = .ok (s.toList.flatMap String.utf8EncodeChar) := by
  have noSurrogate : (ofString s).toList.findIdx? CodePoint.isSurrogate = none := by
    rw [toList_ofString, List.findIdx?_eq_none_iff]
    intro c mem
    obtain ⟨char, -, rfl⟩ := List.mem_map.mp mem
    exact CodePoint.isSurrogate_ofChar char
  have bytes (c : Char) : bytesOf c = String.utf8EncodeChar c := by
    rw [bytesOf, CodePoint.number_ofChar, Char.ofNat_toNat]
  rw [utf8, noSurrogate, toList_ofString]
  show Except.ok ((s.toList.map CodePoint.ofChar).flatMap bytesOf) = _
  rw [List.flatMap_map, funext bytes]

/-! ## Texts without surrogates -/

/-- The text holds no surrogates. -/
def isUnicode (text : Text) : Bool := CodePoint.areUnicode text.toList

theorem exists_utf8_iff (text : Text) :
    (∃ bytes, text.utf8 = .ok bytes) ↔ text.isUnicode = true := by
  have unicode : text.isUnicode = true ↔ text.toList.findIdx? CodePoint.isSurrogate = none := by
    rw [isUnicode, CodePoint.areUnicode, List.all_eq_true, List.findIdx?_eq_none_iff]
    simp only [Bool.not_eq_true']
  rw [unicode, utf8]
  cases text.toList.findIdx? CodePoint.isSurrogate with
  | none => exact iff_of_true ⟨_, rfl⟩ rfl
  | some position => exact iff_of_false nofun nofun

end Text

end RoleAccess
