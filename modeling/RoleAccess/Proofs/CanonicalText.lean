import RoleAccess.Proofs.SortedTables
set_option autoImplicit false

/-! # Canonical texts tell values apart

A plain value, one without byte strings and floating-point numbers, has a canonical text.
Two plain values have the same text exactly if they have the same normal form, which forgets
the order of fields and whether items were a list or a tuple, and nothing else
(`Canonical.text_eq_iff`).

What is proved by induction is more: where a text starts that is followed by nothing or by a
mark that ends an item, the value and the rest can be told (`Canonical.TellsApart`). Strings
are told by reading back one character at a time, numbers by their longest run of digits.
-/

namespace RoleAccess

/-! ## Plain values and normal forms -/

/-- Without byte strings and floating-point numbers, at any depth. -/
inductive Value.IsPlain : Value → Prop
  | null : IsPlain .null
  | bool (b : Bool) : IsPlain (.bool b)
  | int (n : Int) : IsPlain (.int n)
  | str (s : Text) : IsPlain (.str s)
  | list (items : List Value) (plain : ∀ item ∈ items, IsPlain item) : IsPlain (.list items)
  | tuple (items : List Value) (plain : ∀ item ∈ items, IsPlain item) : IsPlain (.tuple items)
  | obj (fields : List (Text × Value)) (plain : ∀ field ∈ fields, IsPlain field.2) :
      IsPlain (.obj fields)

mutual

/-- The value with its fields sorted by name and its tuples made lists, at any depth. -/
def Value.normal : Value → Value
  | .list items => .list (Value.normalItems items)
  | .tuple items => .list (Value.normalItems items)
  | .obj fields => .obj (Canonical.sortMembers (Value.normalFields fields))
  | value => value

/-- The normal forms of items. -/
def Value.normalItems : List Value → List Value
  | [] => []
  | item :: rest => item.normal :: Value.normalItems rest

/-- Fields with the normal forms of their values. -/
def Value.normalFields : List (Text × Value) → List (Text × Value)
  | [] => []
  | (name, value) :: rest => (name, value.normal) :: Value.normalFields rest

end

namespace Value

theorem normalItems_eq (items : List Value) : normalItems items = items.map normal := by
  induction items with
  | nil => rfl
  | cons item rest ih => rw [normalItems, ih, List.map_cons]

theorem normalFields_eq (fields : List (Text × Value)) :
    normalFields fields = Table.mapValues normal fields := by
  induction fields with
  | nil => rfl
  | cons field rest ih =>
      rw [normalFields, ih]
      rfl

theorem normal_list (items : List Value) : (list items).normal = .list (items.map normal) := by
  rw [normal, normalItems_eq]

theorem normal_obj (fields : List (Text × Value)) :
    (obj fields).normal = .obj (Table.mapValues normal (Canonical.sortMembers fields)) := by
  rw [normal, normalFields_eq, Canonical.mapValues_sortMembers]

end Value

namespace Canonical

open Value (IsPlain)

/-! ## Plain values have a text -/

/-- The canonical text of a value that has one. -/
def chars (value : Value) : List CodePoint := (encode value).toOption.getD []

/-- A field as it stands in the text of an object. -/
def memberChars (field : Text × Value) : List CodePoint :=
  quote field.1 ++ (':' : CodePoint) :: chars field.2

theorem encodeItems_of_ok (items : List Value)
    (ok : ∀ item ∈ items, encode item = .ok (chars item)) :
    encodeItems items = .ok (items.map chars) := by
  induction items with
  | nil => rfl
  | cons item rest ih =>
      obtain ⟨first, others⟩ := List.forall_mem_cons.mp ok
      rw [encodeItems, first, ih others]
      rfl

theorem encodeFields_eq (fields : List (Text × Value)) :
    encodeFields fields = Table.mapValues encode fields := by
  induction fields with
  | nil => rfl
  | cons field rest ih =>
      rw [encodeFields, ih]
      rfl

theorem mapM_of_ok (fields : List (Text × Value))
    (ok : ∀ field ∈ fields, encode field.2 = .ok (chars field.2)) :
    (Table.mapValues encode fields).mapM
        (fun member => do return quote member.1 ++ (':' : CodePoint) :: (← member.2)) =
      (.ok (fields.map memberChars) : Except EncodingFault (List (List CodePoint))) := by
  induction fields with
  | nil => rfl
  | cons field rest ih =>
      obtain ⟨first, others⟩ := List.forall_mem_cons.mp ok
      have tail := ih others
      rw [Table.mapValues] at tail ⊢
      rw [List.map_cons, List.mapM_cons, first, tail]
      rfl

theorem encode_list_of_ok (items : List Value)
    (ok : ∀ item ∈ items, encode item = .ok (chars item)) :
    encode (.list items) = .ok (enclose '[' ']' (Text.join ',' (items.map chars))) := by
  rw [encode, encodeItems_of_ok items ok]
  rfl

theorem encode_obj_of_ok (fields : List (Text × Value))
    (ok : ∀ field ∈ fields, encode field.2 = .ok (chars field.2)) :
    encode (.obj fields) =
      .ok (enclose '\x7b' '\x7d' (Text.join ',' ((sortMembers fields).map memberChars))) := by
  rw [encode, encodeFields_eq, ← mapValues_sortMembers, mapM_of_ok]
  · rfl
  · intro field mem
    exact ok field ((sortMembers_perm fields).mem_iff.mp mem)

theorem chars_of_encode {value : Value} {text : List CodePoint} (h : encode value = .ok text) :
    chars value = text := by
  rw [chars, h]
  rfl

theorem encode_of_isPlain (value : Value) (plain : value.IsPlain) :
    encode value = .ok (chars value) := by
  induction plain with
  | null => rfl
  | bool b => cases b <;> rfl
  | int n => rfl
  | str s => rfl
  | list items _ ih | tuple items _ ih =>
      have text := encode_list_of_ok items ih
      exact text.trans (congrArg Except.ok (chars_of_encode text).symm)
  | obj fields _ ih =>
      have text := encode_obj_of_ok fields ih
      exact text.trans (congrArg Except.ok (chars_of_encode text).symm)

section Chars

variable (items : List Value) (plain : ∀ item ∈ items, item.IsPlain)

include plain

theorem chars_list :
    chars (.list items) = enclose '[' ']' (Text.join ',' (items.map chars)) :=
  chars_of_encode (encode_list_of_ok items fun item mem => encode_of_isPlain item (plain item mem))

theorem chars_tuple :
    chars (.tuple items) = enclose '[' ']' (Text.join ',' (items.map chars)) :=
  chars_list items plain

end Chars

theorem chars_obj (fields : List (Text × Value)) (plain : ∀ field ∈ fields, field.2.IsPlain) :
    chars (.obj fields) =
      enclose '\x7b' '\x7d' (Text.join ',' ((sortMembers fields).map memberChars)) :=
  chars_of_encode
    (encode_obj_of_ok fields fun field mem => encode_of_isPlain field.2 (plain field mem))

theorem enclose_append (opening close : CodePoint) (body rest : List CodePoint) :
    enclose opening close body ++ rest = opening :: (body ++ close :: rest) := by
  rw [enclose, List.append_assoc, List.cons_append, List.singleton_append]

/-! ## Quoted texts are told apart -/

/-- The value of a hexadecimal digit. -/
def hexValue (digit : CodePoint) : Nat :=
  if digit.number < 58 then digit.number - 48 else digit.number - 87

/-- The number that hexadecimal digits stand for. -/
def hexNumber (digits : List CodePoint) : Nat :=
  digits.foldl (fun number digit => 16 * number + hexValue digit) 0

/-- The four digits of a control character are read back, and are no surrogates. -/
theorem hexNumber_hex : ∀ n < 0x20,
    hexNumber (Text.hex 4 n) = n ∧
      CodePoint.areUnicode ('u' :: Text.hex 4 n : List CodePoint) = true := by
  decide

/-- Reads the character that an escape stands for, past the backslash. -/
def readEscape : List CodePoint → Option (CodePoint × List CodePoint)
  | [] => none
  | c :: rest =>
      if c = 'u' then some (Char.ofNat (hexNumber (rest.take 4)), rest.drop 4)
      else if c = 'n' then some ('\n', rest)
      else if c = 'r' then some ('\r', rest)
      else if c = 't' then some ('\t', rest)
      else if c = 'b' then some ('\x08', rest)
      else if c = 'f' then some ('\x0c', rest)
      else some (c, rest)

/-- Reads one character of a quoted text, which can be escaped. -/
def readChar : List CodePoint → Option (CodePoint × List CodePoint)
  | [] => none
  | c :: rest => if c = '\\' then readEscape rest else some (c, rest)

/-- A character stands for itself, or behind a backslash there is what tells it, which holds no
surrogates. -/
theorem escapeChar_cases (c : CodePoint) :
    (escapeChar c = [c] ∧ c ≠ '\\') ∨
      ∃ escape, escapeChar c = ('\\' : CodePoint) :: escape ∧
        (∀ rest, readEscape (escape ++ rest) = some (c, rest)) ∧
        CodePoint.areUnicode escape = true ∧ c.isSurrogate = false := by
  unfold escapeChar
  split
  · next special =>
      obtain rfl | rfl := special
      all_goals exact Or.inr ⟨_, rfl, fun _ => rfl, rfl, rfl⟩
  · next ordinary =>
      have plain : c ≠ '\\' := fun h => ordinary (Or.inr h)
      -- the letters that five of the control characters have
      iterate 5
        split
        · next h => exact Or.inr ⟨_, rfl, fun _ => h ▸ rfl, rfl, h ▸ rfl⟩
      split
      · next control =>
          obtain ⟨number, unicode⟩ := hexNumber_hex c.number control
          refine Or.inr ⟨_, rfl, fun rest => ?_, unicode, ?_⟩
          · show some (CodePoint.ofChar (Char.ofNat (hexNumber (Text.hex 4 c.number))), rest) = _
            rw [number, CodePoint.ofChar_ofNat control]
          · rw [CodePoint.isSurrogate, Bool.and_eq_false_iff]
            exact Or.inl (decide_eq_false (by omega))
      · exact Or.inl ⟨rfl, plain⟩

theorem readChar_escapeChar (c : CodePoint) (rest : List CodePoint) :
    readChar (escapeChar c ++ rest) = some (c, rest) := by
  obtain ⟨written, plain⟩ | ⟨escape, written, read, -, -⟩ := escapeChar_cases c
  · rw [written, List.singleton_append, readChar, if_neg plain]
  · rw [written, List.cons_append, readChar, if_pos rfl, read]

/-- No character is written like the quote that ends a text. -/
theorem escapeChar_append_ne (c : CodePoint) (rest more : List CodePoint) :
    escapeChar c ++ rest ≠ ('\x22' : CodePoint) :: more := by
  intro same
  -- what is read from such a text would be a quote, but a quote is written with a backslash
  have read : some (c, rest) = some (('\x22' : CodePoint), more) := by
    rw [← readChar_escapeChar, same]
    rfl
  obtain ⟨rfl, -⟩ := Prod.mk.inj (Option.some.inj read)
  exact absurd (List.cons.inj same).1 (by decide)

theorem eq_of_quote_append (text other : Text) (rest rest' : List CodePoint)
    (same : quote text ++ rest = quote other ++ rest') : text = other ∧ rest = rest' := by
  have told : ∀ chars chars' : List CodePoint,
      chars.flatMap escapeChar ++ ('\x22' : CodePoint) :: rest =
          chars'.flatMap escapeChar ++ ('\x22' : CodePoint) :: rest' →
        chars = chars' ∧ rest = rest' := by
    intro chars
    induction chars with
    | nil =>
        intro chars' same
        cases chars' with
        | nil => exact ⟨rfl, (List.cons.inj same).2⟩
        | cons c' others' =>
            rw [List.flatMap_cons, List.append_assoc] at same
            exact absurd same.symm (escapeChar_append_ne c' _ _)
    | cons c others ih =>
        intro chars' same
        rw [List.flatMap_cons, List.append_assoc] at same
        cases chars' with
        | nil => exact absurd same (escapeChar_append_ne c _ _)
        | cons c' others' =>
            rw [List.flatMap_cons, List.append_assoc] at same
            have read := congrArg readChar same
            rw [readChar_escapeChar, readChar_escapeChar, Option.some.injEq,
              Prod.mk.injEq] at read
            obtain ⟨rfl, tails⟩ := read
            obtain ⟨rfl, ends⟩ := ih others' tails
            exact ⟨rfl, ends⟩
  rw [quote, quote, enclose_append, enclose_append] at same
  obtain ⟨chars, ends⟩ := told _ _ (List.cons.inj same).2
  exact ⟨Text.toList_inj.mp chars, ends⟩

/-! ## Numbers are told apart -/

/-- The marks that close brackets. -/
def closeMarks : List CodePoint := [']', '\x7d']

/-- The marks that end an item. -/
def endMarks : List CodePoint := ',' :: closeMarks

/-- What can follow a value in a text: nothing, or a mark that ends an item. -/
def IsTail (rest : List CodePoint) : Prop := ∀ c ∈ rest.head?, c ∈ endMarks

theorem isTail_nil : IsTail [] := nofun

theorem isTail_cons (mark : CodePoint) (ends : mark ∈ endMarks) (rest : List CodePoint) :
    IsTail (mark :: rest) := by
  intro c head
  cases head
  exact ends

/-- The characters that integers are written with. -/
def isNumeral (c : CodePoint) : Bool := (48 ≤ c.number && c.number ≤ 57) || c == '-'

/-- The digits of an integer, with its sign. -/
def digits (n : Int) : List CodePoint := (Text.ofString (toString n)).toList

/-- Reads an integer. -/
def readInt (text : List Char) : Int :=
  if text.head? = some '-' then -(Nat.ofDigitChars 10 text.tail 0) else Nat.ofDigitChars 10 text 0

theorem toList_toString (n : Int) :
    (toString n).toList =
      if 0 ≤ n then Nat.toDigits 10 n.toNat else '-' :: Nat.toDigits 10 (-n).toNat := by
  rw [Int.toString_eq_repr, Int.repr_eq_if]
  split
  · rw [Nat.toList_repr]
  · rw [String.toList_append, Nat.toList_repr]
    rfl

theorem readInt_toString (n : Int) : readInt (toString n).toList = n := by
  rw [toList_toString]
  split
  · next nonneg =>
      have unsigned : (Nat.toDigits 10 n.toNat).head? ≠ some '-' := by
        intro head
        have digit := Nat.isDigit_of_mem_toDigits (by decide) (by decide)
          (List.mem_of_mem_head? head)
        exact absurd digit (by decide)
      rw [readInt, if_neg unsigned, Nat.ofDigitChars_ten_toDigits]
      exact Int.toNat_of_nonneg nonneg
  · next negative =>
      rw [readInt, List.head?_cons, if_pos rfl, List.tail_cons, Nat.ofDigitChars_ten_toDigits]
      omega

theorem isNumeral_of_isDigit (c : Char) (digit : c.isDigit = true) : isNumeral c = true := by
  rw [Char.isDigit, Bool.and_eq_true, decide_eq_true_eq, decide_eq_true_eq] at digit
  have low : 48 ≤ c.toNat := UInt32.le_iff_toNat_le.mp digit.1
  have high : c.toNat ≤ 57 := UInt32.le_iff_toNat_le.mp digit.2
  simp [isNumeral, low, high]

theorem isNumeral_of_mem_digits (n : Int) (c : CodePoint) (mem : c ∈ digits n) :
    isNumeral c = true := by
  obtain ⟨char, written, rfl⟩ := List.mem_map.mp mem
  have digit (k : Nat) (h : char ∈ Nat.toDigits 10 k) : isNumeral char = true :=
    isNumeral_of_isDigit char (Nat.isDigit_of_mem_toDigits (by decide) (by decide) h)
  rw [toList_toString] at written
  split at written
  · exact digit _ written
  · obtain rfl | written := List.mem_cons.mp written
    · rfl
    · exact digit _ written

theorem digits_ne_nil (n : Int) : digits n ≠ [] := by
  rw [digits, Text.toList_ofString, toList_toString, Ne, List.map_eq_nil_iff]
  split
  · exact Nat.toDigits_ne_nil
  · nofun

theorem takeWhile_digits_append (n : Int) (rest : List CodePoint) (tail : IsTail rest) :
    (digits n ++ rest).takeWhile isNumeral = digits n := by
  rw [List.takeWhile_append_of_pos (isNumeral_of_mem_digits n)]
  cases rest with
  | nil => exact List.append_nil _
  | cons mark more =>
      have ends : isNumeral mark = false := by
        have known := tail mark rfl
        simp only [endMarks, closeMarks, List.mem_cons, List.not_mem_nil, or_false] at known
        obtain rfl | rfl | rfl := known
        · rfl
        · rfl
        · rfl
      rw [List.takeWhile_cons, ends]
      exact List.append_nil _

theorem eq_of_int_append (n m : Int) (rest rest' : List CodePoint) (tail : IsTail rest)
    (tail' : IsTail rest') (same : digits n ++ rest = digits m ++ rest') :
    n = m ∧ rest = rest' := by
  have numerals := congrArg (List.takeWhile isNumeral) same
  rw [takeWhile_digits_append n rest tail, takeWhile_digits_append m rest' tail'] at numerals
  refine ⟨?_, ?_⟩
  · have written : toString n = toString m := Text.ofString_inj.mp (Text.toList_inj.mp numerals)
    rw [← readInt_toString n, written, readInt_toString]
  · rw [numerals] at same
    exact List.append_cancel_left same

/-! ## Items between brackets are told apart -/

theorem join_cons_append (mark : CodePoint) (piece : List CodePoint)
    (pieces : List (List CodePoint)) (rest : List CodePoint) :
    Text.join mark (piece :: pieces) ++ rest =
      piece ++ (if pieces = [] then rest else mark :: (Text.join mark pieces ++ rest)) := by
  cases pieces with
  | nil => rfl
  | cons next others => simp [Text.join]

section Items

variable {α β : Type} (print : α → List CodePoint) (view : α → β) (close : CodePoint)

/-- What the texts of some items show of them is told, if it is told for each two of them and
no item starts like the closing bracket. -/
theorem map_eq_of_join_append (ends : close ∈ closeMarks) (items others : List α)
    (opens : ∀ item ∈ items, ∀ rest more, print item ++ rest ≠ close :: more)
    (opens' : ∀ other ∈ others, ∀ rest more, print other ++ rest ≠ close :: more)
    (told : ∀ item ∈ items, ∀ other ∈ others, ∀ rest rest', IsTail rest → IsTail rest' →
      print item ++ rest = print other ++ rest' → view item = view other ∧ rest = rest')
    (rest rest' : List CodePoint)
    (same : Text.join ',' (items.map print) ++ close :: rest =
      Text.join ',' (others.map print) ++ close :: rest') :
    items.map view = others.map view ∧ rest = rest' := by
  have closes (more : List CodePoint) : IsTail (close :: more) :=
    isTail_cons _ (List.mem_cons_of_mem _ ends) more
  have noComma : close ≠ ',' := by
    rintro rfl
    exact absurd ends (by decide)
  have follows (pieces : List (List CodePoint)) (more : List CodePoint) :
      IsTail (if pieces = [] then close :: more
        else (',' : CodePoint) :: (Text.join ',' pieces ++ close :: more)) := by
    split
    · exact closes more
    · exact isTail_cons _ (by decide) _
  induction items generalizing others with
  | nil =>
      cases others with
      | nil => exact ⟨rfl, (List.cons.inj same).2⟩
      | cons other others =>
          rw [List.map_cons, join_cons_append] at same
          exact absurd same.symm (opens' other List.mem_cons_self _ _)
  | cons item items ih =>
      rw [List.map_cons, join_cons_append] at same
      cases others with
      | nil => exact absurd same (opens item List.mem_cons_self _ _)
      | cons other others =>
          rw [List.map_cons, join_cons_append] at same
          obtain ⟨first, tails⟩ := told item List.mem_cons_self other List.mem_cons_self _ _
            (follows _ _) (follows _ _) same
          -- both texts go on, or both are closed
          have remaining : items.map view = others.map view ∧ rest = rest' := by
            by_cases last : items.map print = []
            · by_cases last' : others.map print = []
              · rw [if_pos last, if_pos last'] at tails
                obtain rfl := List.map_eq_nil_iff.mp last
                obtain rfl := List.map_eq_nil_iff.mp last'
                exact ⟨rfl, (List.cons.inj tails).2⟩
              · rw [if_pos last, if_neg last'] at tails
                exact absurd (List.cons.inj tails).1 noComma
            · by_cases last' : others.map print = []
              · rw [if_neg last, if_pos last'] at tails
                exact absurd (List.cons.inj tails).1.symm noComma
              · rw [if_neg last, if_neg last'] at tails
                exact ih others (fun i mem => opens i (List.mem_cons_of_mem _ mem))
                  (fun o mem => opens' o (List.mem_cons_of_mem _ mem))
                  (fun i memI o memO =>
                    told i (List.mem_cons_of_mem _ memI) o (List.mem_cons_of_mem _ memO))
                  (List.cons.inj tails).2
          rw [List.map_cons, List.map_cons, first, remaining.1]
          exact ⟨rfl, remaining.2⟩

end Items

/-! ## Values are told apart -/

/-- The kinds of values that the first character of a text tells. -/
inductive Opening where
  | null
  | yes
  | no
  | number
  | text
  | items
  | members
  deriving DecidableEq

/-- The kind of value that starts with a character. -/
def Opening.of (c : CodePoint) : Opening :=
  if c = 'n' then null
  else if c = 't' then yes
  else if c = 'f' then no
  else if c = '\x22' then text
  else if c = '[' then items
  else if c = '\x7b' then members
  else number

/-- The kind of a plain value. -/
def Opening.ofValue : Value → Opening
  | .null => null
  | .bool true => yes
  | .bool false => no
  | .str _ => text
  | .list _ => items
  | .tuple _ => items
  | .obj _ => members
  | _ => number

theorem Opening.of_numeral (c : CodePoint) (numeral : isNumeral c = true) :
    Opening.of c = number := by
  have other (mark : CodePoint) (none : isNumeral mark = false) : c ≠ mark := by
    rintro rfl
    exact absurd (numeral.symm.trans none) (by decide)
  rw [Opening.of, if_neg (other 'n' rfl), if_neg (other 't' rfl), if_neg (other 'f' rfl),
    if_neg (other '\x22' rfl), if_neg (other '[' rfl), if_neg (other '\x7b' rfl)]

/-- The text of a plain value starts with a character of its kind, which ends no item. -/
theorem exists_opening (value : Value) (plain : value.IsPlain) :
    ∃ c rest, chars value = c :: rest ∧ Opening.of c = Opening.ofValue value ∧
      c ∉ endMarks := by
  cases plain with
  | null => exact ⟨_, _, rfl, rfl, by decide⟩
  | bool b => cases b <;> exact ⟨_, _, rfl, rfl, by decide⟩
  | int n =>
      obtain ⟨c, rest, text⟩ := List.exists_cons_of_ne_nil (digits_ne_nil n)
      have numeral : isNumeral c = true :=
        isNumeral_of_mem_digits n c (text ▸ List.mem_cons_self)
      refine ⟨c, rest, text, Opening.of_numeral c numeral, ?_⟩
      intro mem
      simp only [endMarks, closeMarks, List.mem_cons, List.not_mem_nil, or_false] at mem
      obtain rfl | rfl | rfl := mem
      all_goals exact absurd numeral (by decide)
  | str s => exact ⟨_, _, rfl, rfl, by decide⟩
  | list items plain => exact ⟨_, _, chars_list items plain, rfl, by decide⟩
  | tuple items plain => exact ⟨_, _, chars_tuple items plain, rfl, by decide⟩
  | obj fields plain => exact ⟨_, _, chars_obj fields plain, rfl, by decide⟩

/-- From a text that starts with one of two values, it can be told what the value is, up to
its normal form, and what comes after. -/
def TellsApart (value other : Value) : Prop :=
  ∀ rest rest', IsTail rest → IsTail rest' → chars value ++ rest = chars other ++ rest' →
    value.normal = other.normal ∧ rest = rest'

theorem opening_eq_of_append (value other : Value) (plain : value.IsPlain)
    (plain' : other.IsPlain) (rest rest' : List CodePoint)
    (same : chars value ++ rest = chars other ++ rest') :
    Opening.ofValue value = Opening.ofValue other := by
  obtain ⟨c, more, text, opening, -⟩ := exists_opening value plain
  obtain ⟨c', more', text', opening', -⟩ := exists_opening other plain'
  rw [text, text', List.cons_append, List.cons_append] at same
  rw [← opening, ← opening', (List.cons.inj same).1]

/-- No plain value starts like a closing bracket. -/
theorem chars_append_ne (value : Value) (plain : value.IsPlain) (close : CodePoint)
    (ends : close ∈ closeMarks) (rest more : List CodePoint) :
    chars value ++ rest ≠ close :: more := by
  intro same
  obtain ⟨c, others, text, -, noEnd⟩ := exists_opening value plain
  rw [text, List.cons_append] at same
  rw [(List.cons.inj same).1] at noEnd
  exact noEnd (List.mem_cons_of_mem _ ends)

theorem tellsApart_items (items others : List Value) (plain : ∀ item ∈ items, item.IsPlain)
    (plain' : ∀ other ∈ others, other.IsPlain)
    (told : ∀ item ∈ items, ∀ other, other.IsPlain → TellsApart item other) :
    TellsApart (.list items) (.list others) := by
  intro rest rest' tail tail' same
  rw [chars_list items plain, chars_list others plain', enclose_append, enclose_append] at same
  obtain ⟨views, ends⟩ := map_eq_of_join_append chars Value.normal ']' (by decide) items others
    (fun item mem => chars_append_ne item (plain item mem) ']' (by decide))
    (fun other mem => chars_append_ne other (plain' other mem) ']' (by decide))
    (fun item mem other mem' => told item mem other (plain' other mem')) rest rest'
    (List.cons.inj same).2
  rw [Value.normal_list, Value.normal_list, views]
  exact ⟨rfl, ends⟩

theorem tellsApart_fields (fields others : List (Text × Value))
    (plain : ∀ field ∈ fields, field.2.IsPlain) (plain' : ∀ other ∈ others, other.2.IsPlain)
    (told : ∀ field ∈ fields, ∀ other : Value, other.IsPlain → TellsApart field.2 other) :
    TellsApart (.obj fields) (.obj others) := by
  intro rest rest' tail tail' same
  have quoted (field : Text × Value) (more more' : List CodePoint) :
      memberChars field ++ more ≠ ('\x7d' : CodePoint) :: more' := by
    intro same
    exact absurd (List.cons.inj same).1 (by decide)
  rw [chars_obj fields plain, chars_obj others plain', enclose_append, enclose_append] at same
  obtain ⟨views, ends⟩ := map_eq_of_join_append memberChars
    (fun field => (field.1, field.2.normal)) '\x7d' (by decide) (sortMembers fields)
    (sortMembers others) (fun field _ => quoted field) (fun other _ => quoted other) (by
      intro field mem other mem' more more' tail tail' same
      have mem := (sortMembers_perm fields).mem_iff.mp mem
      have mem' := (sortMembers_perm others).mem_iff.mp mem'
      rw [memberChars, memberChars, List.append_assoc, List.append_assoc] at same
      obtain ⟨name, same⟩ := eq_of_quote_append _ _ _ _ same
      obtain ⟨normal, ends⟩ := told field mem other.2 (plain' other mem') more more' tail tail'
        (List.cons.inj same).2
      exact ⟨Prod.ext name normal, ends⟩) rest rest' (List.cons.inj same).2
  have members : Table.mapValues Value.normal (sortMembers fields) =
      Table.mapValues Value.normal (sortMembers others) := views
  rw [Value.normal_obj, Value.normal_obj, members]
  exact ⟨rfl, ends⟩

theorem tellsApart (value : Value) (plain : value.IsPlain) :
    ∀ other : Value, other.IsPlain → TellsApart value other := by
  -- values of different kinds differ in their first character, which leaves the diagonal
  induction plain with
  | null =>
      intro other plain' rest rest' tail tail' same
      have kind := opening_eq_of_append _ _ .null plain' rest rest' same
      cases plain' with
      | null => exact ⟨rfl, List.append_cancel_left same⟩
      | bool b => cases b <;> cases kind
      | _ => cases kind
  | bool b =>
      intro other plain' rest rest' tail tail' same
      have kind := opening_eq_of_append _ _ (.bool b) plain' rest rest' same
      cases plain' with
      | bool b' =>
          obtain rfl : b = b' := by cases b <;> cases b' <;> first | rfl | cases kind
          exact ⟨rfl, List.append_cancel_left same⟩
      | _ => cases b <;> cases kind
  | int n =>
      intro other plain' rest rest' tail tail' same
      have kind := opening_eq_of_append _ _ (.int n) plain' rest rest' same
      cases plain' with
      | int m =>
          obtain ⟨rfl, ends⟩ := eq_of_int_append n m rest rest' tail tail' same
          exact ⟨rfl, ends⟩
      | bool b => cases b <;> cases kind
      | _ => cases kind
  | str s =>
      intro other plain' rest rest' tail tail' same
      have kind := opening_eq_of_append _ _ (.str s) plain' rest rest' same
      cases plain' with
      | str s' =>
          obtain ⟨rfl, ends⟩ := eq_of_quote_append s s' rest rest' same
          exact ⟨rfl, ends⟩
      | bool b => cases b <;> cases kind
      | _ => cases kind
  | list items plain ih | tuple items plain ih =>
      -- a tuple is written like the list of its items
      intro other plain'
      show TellsApart (.list items) other
      intro rest rest' tail tail' same
      have kind := opening_eq_of_append _ _ (.list items plain) plain' rest rest' same
      cases plain' with
      | list others plain' | tuple others plain' =>
          exact tellsApart_items items others plain plain' ih rest rest' tail tail' same
      | bool b => cases b <;> cases kind
      | _ => cases kind
  | obj fields plain ih =>
      intro other plain' rest rest' tail tail' same
      have kind := opening_eq_of_append _ _ (.obj fields plain) plain' rest rest' same
      cases plain' with
      | obj others plain' =>
          exact tellsApart_fields fields others plain plain' ih rest rest' tail tail' same
      | bool b => cases b <;> cases kind
      | _ => cases kind

/-! ## Values with the same text -/

theorem isPlain_normal (value : Value) (plain : value.IsPlain) : value.normal.IsPlain := by
  induction plain with
  | null => exact .null
  | bool b => exact .bool b
  | int n => exact .int n
  | str s => exact .str s
  | list items _ ih | tuple items _ ih =>
      rw [Value.normal, Value.normalItems_eq]
      exact .list _ (List.forall_mem_map.mpr ih)
  | obj fields _ ih =>
      rw [Value.normal_obj]
      refine .obj _ (List.forall_mem_map.mpr fun field mem => ?_)
      exact ih field ((sortMembers_perm fields).mem_iff.mp mem)

theorem map_chars_normal (items : List Value)
    (same : ∀ item ∈ items, chars item.normal = chars item) :
    (items.map Value.normal).map chars = items.map chars := by
  rw [List.map_map]
  exact List.map_congr_left same

/-- A value is written like its normal form. -/
theorem chars_normal (value : Value) (plain : value.IsPlain) :
    chars value.normal = chars value := by
  induction plain with
  | null | bool b | int n | str s => rfl
  | list items plain ih | tuple items plain ih =>
      have plain' : ∀ item ∈ items.map Value.normal, item.IsPlain :=
        List.forall_mem_map.mpr fun item mem => isPlain_normal item (plain item mem)
      rw [Value.normal, Value.normalItems_eq, chars_list _ plain', map_chars_normal items ih]
      exact (chars_list items plain).symm
  | obj fields plain ih =>
      have known : ∀ field ∈ sortMembers fields, field ∈ fields :=
        fun field => (sortMembers_perm fields).mem_iff.mp
      have plain' : ∀ field ∈ Table.mapValues Value.normal (sortMembers fields),
          field.2.IsPlain :=
        List.forall_mem_map.mpr fun field mem =>
          isPlain_normal field.2 (plain field (known field mem))
      have members : (Table.mapValues Value.normal (sortMembers fields)).map memberChars =
          (sortMembers fields).map memberChars := by
        rw [Table.mapValues, List.map_map]
        refine List.map_congr_left fun field mem => ?_
        show quote field.1 ++ (':' : CodePoint) :: chars field.2.normal = _
        rw [ih field (known field mem)]
        rfl
      -- sorted members stay as they are when they are sorted once more
      rw [Value.normal_obj, chars_obj _ plain', ← mapValues_sortMembers, sortMembers_sortMembers,
        members, chars_obj fields plain]

/-- **Canonical texts tell values apart** up to their normal forms. -/
theorem text_eq_iff (value other : Value) (plain : value.IsPlain) (plain' : other.IsPlain) :
    text value = text other ↔ value.normal = other.normal := by
  have texts : text value = text other ↔ chars value = chars other := by
    rw [text, text, encode_of_isPlain value plain, encode_of_isPlain other plain']
    constructor
    · intro same
      exact Text.ofList.inj (Except.ok.inj same)
    · intro same
      rw [same]
  rw [texts]
  constructor
  · intro same
    exact (tellsApart value plain other plain' [] [] isTail_nil isTail_nil (by rw [same])).1
  · intro same
    rw [← chars_normal value plain, same, chars_normal other plain']

theorem text_of_isPlain (value : Value) (plain : value.IsPlain) :
    text value = .ok (Text.ofList (chars value)) := by
  rw [text, encode_of_isPlain value plain]
  rfl

end Canonical

end RoleAccess
