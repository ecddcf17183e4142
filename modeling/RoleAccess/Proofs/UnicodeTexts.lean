import RoleAccess.Proofs.PlainDocuments
set_option autoImplicit false

/-! # Texts without surrogates have fingerprints

The canonical text of a plain value holds a surrogate exactly if one of the texts and field
names in the value does, because a surrogate is escaped nowhere. Such a text has no UTF-8 form
to be digested. A policy therefore has a fingerprint exactly if no name in its rules, and none
of its ownership fields, holds a surrogate.
-/

namespace RoleAccess

/-! ## Values without surrogates -/

mutual

/-- Neither the texts nor the field names in the value hold surrogates, at any depth. -/
def Value.isUnicode : Value → Bool
  | .str s => s.isUnicode
  | .list items => Value.areUnicode items
  | .tuple items => Value.areUnicode items
  | .obj fields => Value.fieldsAreUnicode fields
  | _ => true

/-- No surrogates in the items. -/
def Value.areUnicode : List Value → Bool
  | [] => true
  | item :: rest => item.isUnicode && Value.areUnicode rest

/-- No surrogates in the names and values of the fields. -/
def Value.fieldsAreUnicode : List (Text × Value) → Bool
  | [] => true
  | (name, value) :: rest => name.isUnicode && value.isUnicode && Value.fieldsAreUnicode rest

end

namespace Value

theorem areUnicode_eq_all (items : List Value) : areUnicode items = items.all isUnicode := by
  induction items with
  | nil => rfl
  | cons item rest ih => rw [areUnicode, ih, List.all_cons]

theorem fieldsAreUnicode_eq_all (fields : List (Text × Value)) :
    fieldsAreUnicode fields = fields.all fun field => field.1.isUnicode && field.2.isUnicode := by
  induction fields with
  | nil => rfl
  | cons field rest ih => rw [fieldsAreUnicode, ih, List.all_cons]

theorem isUnicode_ofTexts (names : Table Text) :
    (ofTexts names).isUnicode =
      names.all fun entry => entry.1.isUnicode && entry.2.isUnicode := by
  rw [ofTexts, isUnicode, fieldsAreUnicode_eq_all, Table.mapValues, List.all_map]
  rfl

end Value

/-! ## Canonical texts without surrogates -/

namespace CodePoint

@[simp] theorem areUnicode_cons (c : CodePoint) (rest : List CodePoint) :
    areUnicode (c :: rest) = (!c.isSurrogate && areUnicode rest) := List.all_cons

@[simp] theorem areUnicode_append (points rest : List CodePoint) :
    areUnicode (points ++ rest) = (areUnicode points && areUnicode rest) := List.all_append

theorem areUnicode_map_ofChar (chars : List Char) : areUnicode (chars.map ofChar) = true := by
  rw [areUnicode, List.all_map, List.all_eq_true]
  intro c _
  rw [Function.comp_apply, isSurrogate_ofChar]
  rfl

theorem areUnicode_flatMap {print : CodePoint → List CodePoint} (points : List CodePoint)
    (each : ∀ c, areUnicode (print c) = !c.isSurrogate) :
    areUnicode (points.flatMap print) = areUnicode points := by
  rw [areUnicode, List.all_flatMap]
  exact congrArg points.all (funext each)

theorem areUnicode_join (mark : Char) (pieces : List (List CodePoint)) :
    areUnicode (Text.join mark pieces) = pieces.all areUnicode := by
  induction pieces with
  | nil => rfl
  | cons piece pieces ih =>
      cases pieces with
      | nil => simp [Text.join]
      | cons next pieces =>
          rw [Text.join, areUnicode_append, areUnicode_cons, isSurrogate_ofChar, ih]
          rfl

end CodePoint

namespace Canonical

open CodePoint

theorem areUnicode_enclose (opening close : Char) (body : List CodePoint) :
    areUnicode (enclose opening close body) = areUnicode body := by
  simp [enclose, isSurrogate_ofChar, areUnicode]

/-- A surrogate stands for itself, and no escape holds one. -/
theorem areUnicode_escapeChar (c : CodePoint) : areUnicode (escapeChar c) = !c.isSurrogate := by
  obtain ⟨written, -⟩ | ⟨escape, written, -, unicode, noSurrogate⟩ := escapeChar_cases c
  · rw [written, areUnicode_cons]
    exact Bool.and_true _
  · rw [written, areUnicode_cons, isSurrogate_ofChar, unicode, noSurrogate]
    rfl

theorem areUnicode_quote (text : Text) : areUnicode (quote text) = text.isUnicode := by
  rw [quote, areUnicode_enclose, areUnicode_flatMap _ areUnicode_escapeChar, Text.isUnicode]

theorem areUnicode_memberChars (field : Text × Value) :
    areUnicode (memberChars field) = (field.1.isUnicode && areUnicode (chars field.2)) := by
  rw [memberChars, areUnicode_append, areUnicode_cons, areUnicode_quote, isSurrogate_ofChar]
  rfl

/-- **Canonical texts hold the surrogates of their values**, and no others. -/
theorem areUnicode_chars (value : Value) (plain : value.IsPlain) :
    areUnicode (chars value) = value.isUnicode := by
  induction plain with
  | null => rfl
  | bool b => cases b <;> rfl
  | int n => exact areUnicode_map_ofChar _
  | str s => exact areUnicode_quote s
  | list items plain ih | tuple items plain ih =>
      have written := chars_list items plain
      have each : (items.map chars).all areUnicode = items.all Value.isUnicode := by
        rw [Bool.eq_iff_iff, List.all_map, List.all_eq_true, List.all_eq_true]
        exact forall₂_congr fun item mem => by rw [Function.comp_apply, ih item mem]
      show areUnicode (chars (.list items)) = Value.areUnicode items
      rw [written, areUnicode_enclose, areUnicode_join, each, Value.areUnicode_eq_all]
  | obj fields plain ih =>
      have members : ((sortMembers fields).map memberChars).all areUnicode =
          (sortMembers fields).all fun field => field.1.isUnicode && field.2.isUnicode := by
        rw [Bool.eq_iff_iff, List.all_map, List.all_eq_true, List.all_eq_true]
        refine forall₂_congr fun field mem => ?_
        rw [Function.comp_apply, areUnicode_memberChars,
          ih field ((sortMembers_perm fields).mem_iff.mp mem)]
      rw [chars_obj fields plain, areUnicode_enclose, areUnicode_join, members,
        (sortMembers_perm fields).all_eq, Value.isUnicode, Value.fieldsAreUnicode_eq_all]

end Canonical

/-! ## Policies with a fingerprint -/

/-- No name in the rules, and no ownership field, holds a surrogate. -/
structure Policy.IsUnicode (policy : Policy) : Prop where
  rules : policy.book.toValue.isUnicode = true
  ownerFields : ∀ entry ∈ policy.ownerFields,
    entry.1.isUnicode = true ∧ entry.2.isUnicode = true

theorem Fingerprint.isUnicode_payload_iff (policy : Policy) :
    (payload policy.book.toValue (.ofTexts policy.ownerFields)).isUnicode = true ↔
      policy.IsUnicode := by
  have names : (Text.ofString "accessIdNames").isUnicode = true ∧
      (Text.ofString "rules").isUnicode = true := ⟨rfl, rfl⟩
  rw [payload, Value.isUnicode, Value.fieldsAreUnicode, Value.fieldsAreUnicode,
    Value.fieldsAreUnicode, Value.isUnicode_ofTexts]
  simp only [names.1, names.2, Bool.true_and, Bool.and_true, Bool.and_eq_true, List.all_eq_true]
  exact ⟨fun ⟨owners, rules⟩ => ⟨rules, owners⟩, fun ⟨rules, owners⟩ => ⟨owners, rules⟩⟩

namespace Policy

variable (policy : Policy)

/-- The fingerprint is that of a text without surrogates, or there is none for the surrogates. -/
theorem fingerprint_cases :
    policy.IsUnicode ∧ (∃ id, policy.fingerprint = .ok id) ∨
      ¬policy.IsUnicode ∧ ∃ fault, policy.fingerprint = .error (.surrogates fault) := by
  have plain := isPlain_payload policy.book policy.ownerFields
  let found : Text := .ofList (Canonical.chars (Fingerprint.payload policy.book.toValue
    (.ofTexts policy.ownerFields)))
  have unicode : (∃ bytes, found.utf8 = .ok bytes) ↔ policy.IsUnicode := by
    rw [found.exists_utf8_iff, Text.isUnicode, Canonical.areUnicode_chars _ plain,
      Fingerprint.isUnicode_payload_iff]
  have digested : policy.fingerprint = (found.utf8.mapError EncodingFault.surrogates).map
      fun bytes => Fingerprint.scheme ++ Sha256.hexDigest bytes := by
    rw [fingerprint, Fingerprint.compute, Fingerprint.text, Canonical.text_of_isPlain _ plain]
    rfl
  rw [digested, ← unicode]
  cases found.utf8 with
  | ok bytes => exact Or.inl ⟨⟨bytes, rfl⟩, _, rfl⟩
  | error fault =>
      refine Or.inr ⟨?_, fault, rfl⟩
      rintro ⟨bytes, utf8⟩
      cases utf8

variable {policy}

theorem IsUnicode.exists_fingerprint (unicode : policy.IsUnicode) :
    ∃ id, policy.fingerprint = .ok id :=
  policy.fingerprint_cases.elim And.right fun others => absurd unicode others.1

theorem surrogates_of_not_isUnicode (surrogates : ¬policy.IsUnicode) :
    ∃ fault, policy.fingerprint = .error (.surrogates fault) :=
  policy.fingerprint_cases.elim (fun unicode => absurd unicode.1 surrogates) And.right

end Policy

end RoleAccess
