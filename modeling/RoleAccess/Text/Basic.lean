set_option autoImplicit false

/-! # Texts

A text is a sequence of code points. Surrogates are code points as well, and a text from
outside can hold them alone, so there are more texts than strings: a string is a text without
surrogates. Texts are ordered code point by code point.
-/

namespace RoleAccess

/-- A code point, which may be a surrogate. -/
structure CodePoint where
  number : Nat
  inRange : number < 0x110000
  deriving Repr

namespace CodePoint

/-- The code point of a character. -/
def ofChar (c : Char) : CodePoint where
  number := c.toNat
  inRange := by
    have valid := c.valid
    simp only [UInt32.isValidChar, Nat.isValidChar] at valid
    show c.val.toNat < 0x110000
    omega

instance : Coe Char CodePoint := ⟨ofChar⟩

@[simp] theorem number_ofChar (c : Char) : (ofChar c).number = c.toNat := rfl

theorem number_inj {a b : CodePoint} : a.number = b.number ↔ a = b := by
  cases a
  cases b
  simp

instance : DecidableEq CodePoint := fun _ _ => decidable_of_iff _ number_inj

@[simp] theorem ofChar_inj {a b : Char} : ofChar a = ofChar b ↔ a = b := by
  rw [← number_inj, number_ofChar, number_ofChar, Char.toNat_inj]

theorem ofChar_ofNat {c : CodePoint} (control : c.number < 0x20) :
    ofChar (Char.ofNat c.number) = c := by
  have valid : c.number.isValidChar := Or.inl (by omega)
  rw [← number_inj, number_ofChar, Char.ofNat, dif_pos valid]
  exact UInt32.toNat_ofNatLT

/-- A surrogate is no character of its own. -/
def isSurrogate (c : CodePoint) : Bool := 0xd800 ≤ c.number && c.number ≤ 0xdfff

theorem isSurrogate_ofChar (c : Char) : (ofChar c).isSurrogate = false := by
  have valid := c.valid
  simp only [UInt32.isValidChar, Nat.isValidChar] at valid
  simp only [isSurrogate, number_ofChar, Char.toNat]
  grind

end CodePoint

/-- A text, which may hold surrogates. -/
structure Text where ofList ::
  toList : List CodePoint
  deriving Repr, Inhabited

namespace Text

/-- The text of a string. -/
def ofString (s : String) : Text := ofList (s.toList.map CodePoint.ofChar)

instance : Coe String Text := ⟨ofString⟩

instance : Append Text := ⟨fun a b => ofList (a.toList ++ b.toList)⟩

/-- The texts in order with `mark` between neighbours. -/
def intercalate (mark : Text) : List Text → Text
  | [] => ""
  | [text] => text
  | text :: next :: rest => text ++ mark ++ intercalate mark (next :: rest)

theorem toList_inj {a b : Text} : a.toList = b.toList ↔ a = b := by
  cases a
  cases b
  simp

instance : DecidableEq Text := fun _ _ => decidable_of_iff _ toList_inj

@[simp] theorem toList_ofString (s : String) :
    (ofString s).toList = s.toList.map CodePoint.ofChar := rfl

@[simp] theorem toList_eq_nil_iff {text : Text} : text.toList = [] ↔ text = "" := by
  rw [← toList_inj]
  rfl

@[simp] theorem ofList_eq_empty_iff {points : List CodePoint} :
    ofList points = "" ↔ points = [] := by
  rw [← toList_eq_nil_iff]

@[simp] theorem ofList_nil : ofList [] = "" := rfl

@[simp] theorem toList_append (a b : Text) : (a ++ b).toList = a.toList ++ b.toList := rfl

@[simp] theorem ofString_inj {s t : String} : ofString s = ofString t ↔ s = t := by
  rw [← toList_inj, toList_ofString, toList_ofString,
    List.map_inj_right fun _ _ => CodePoint.ofChar_inj.mp, String.toList_inj]

@[simp] theorem append_empty (text : Text) : text ++ ofString "" = text :=
  toList_inj.mp (by simp)

@[simp] theorem empty_append (text : Text) : ofString "" ++ text = text :=
  toList_inj.mp (by simp)

theorem ofString_append (s t : String) : ofString (s ++ t) = ofString s ++ ofString t :=
  toList_inj.mp (by simp)

theorem append_assoc (a b c : Text) : a ++ b ++ c = a ++ (b ++ c) :=
  toList_inj.mp (List.append_assoc ..)

/-! ## Order -/

/-- The numbers of the code points. -/
def numbers (text : Text) : List Nat := text.toList.map CodePoint.number

instance : LT Text := ⟨fun a b => List.lt a.numbers b.numbers⟩

instance : LE Text := ⟨fun a b => List.le a.numbers b.numbers⟩

instance (a b : Text) : Decidable (a < b) := List.decidableLT a.numbers b.numbers

instance (a b : Text) : Decidable (a ≤ b) := List.decidableLE a.numbers b.numbers

theorem numbers_inj {a b : Text} : a.numbers = b.numbers ↔ a = b := by
  rw [numbers, numbers, List.map_inj_right fun _ _ => CodePoint.number_inj.mp, toList_inj]

theorem lt_irrefl (a : Text) : ¬a < a := List.lt_irrefl a.numbers

theorem lt_trans {a b c : Text} (first : a < b) (second : b < c) : a < c :=
  List.lt_trans (α := Nat) first second

theorem not_lt {a b : Text} : ¬a < b ↔ b ≤ a := Iff.rfl

theorem le_refl (a : Text) : a ≤ a := lt_irrefl a

theorem le_trans {a b c : Text} (first : a ≤ b) (second : b ≤ c) : a ≤ c :=
  List.le_trans (α := Nat) first second

theorem le_total (a b : Text) : a ≤ b ∨ b ≤ a := List.le_total (α := Nat) a.numbers b.numbers

theorem le_antisymm {a b : Text} (first : a ≤ b) (second : b ≤ a) : a = b :=
  numbers_inj.mp (List.le_antisymm (α := Nat) first second)

theorem lt_of_le_of_ne {a b : Text} (le : a ≤ b) (ne : a ≠ b) : a < b :=
  Decidable.byContradiction fun before => ne (le_antisymm le (not_lt.mp before))

end Text

end RoleAccess
