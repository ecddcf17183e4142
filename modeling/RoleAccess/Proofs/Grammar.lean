import RoleAccess.Proofs.Batches
import RoleAccess.Proofs.RuleTexts
set_option autoImplicit false

/-! # Exactly the rules of the grammar are accepted

Whatever rules there are already, exactly the values are accepted that consist of roles and
a rule text, where a denial is for everyone alone. What has not even the shape of a rule is
an invalid input, and all the rest are invalid rules.
-/

namespace RoleAccess

/-! ## Texts that are refused -/

/-- A step that refuses nothing but rule texts. -/
def RefusesTexts {α : Type} (step : Except RuleFault α) : Prop :=
  ∀ fault, step = .error fault → fault.cls = .invalidRule

namespace RefusesTexts

variable {α β : Type}

theorem ok (a : α) : RefusesTexts (.ok a) := nofun

theorem error {fault : RuleFault} (cls : fault.cls = .invalidRule) :
    RefusesTexts (.error fault : Except RuleFault α) := by
  rintro _ ⟨⟩
  exact cls

theorem map {step : Except RuleFault α} (refuses : RefusesTexts step) (f : α → β) :
    RefusesTexts (step.map f) := by
  cases step with
  | error fault => exact .error (refuses fault rfl)
  | ok a => exact .ok _

theorem scopeOf (source clause : Text) : RefusesTexts (Address.scopeOf source clause) := by
  unfold Address.scopeOf
  split
  · exact .ok _
  · exact .error rfl

theorem ofModelClauses (source : Text) (clauses : List Text) :
    RefusesTexts (Address.ofModelClauses source clauses) := by
  unfold Address.ofModelClauses
  split
  · exact .ok _
  · exact .ok _
  · split
    · exact .ok _
    · exact .error rfl
  · split
    · exact .error rfl
    · exact (scopeOf _ _).map _
  · split
    · exact .error rfl
    · exact (scopeOf _ _).map _
  · exact .error rfl

theorem ofModuleClauses (source : Text) (clauses : List Text) :
    RefusesTexts (Address.ofModuleClauses source clauses) := by
  unfold Address.ofModuleClauses
  split
  · exact .ok _
  · exact .ok _
  · exact .ok _
  · exact .error rfl

theorem segmentsOf (source path : Text) : RefusesTexts (Address.segmentsOf source path) := by
  unfold Address.segmentsOf
  split
  · split
    · exact .error rfl
    · exact .ok _
  · exact .error rfl

theorem ofRouteClauses (source : Text) (clauses : List Text) :
    RefusesTexts (Address.ofRouteClauses source clauses) := by
  unfold Address.ofRouteClauses
  split
  · exact .ok _
  · exact (segmentsOf _ _).map _
  · exact (segmentsOf _ _).map _
  · exact .error rfl

theorem addresses (rule : Rule) : RefusesTexts rule.addresses := by
  unfold Rule.addresses
  split
  · split
    · exact .ok _
    · exact .error rfl
  · exact (ofModelClauses _ _).map _
  · exact (ofModuleClauses _ _).map _
  · exact (ofRouteClauses _ _).map _

theorem ofText (source : Text) (roles : List Text) (text : Text) :
    RefusesTexts (Rule.ofText source roles text) := by
  unfold Rule.ofText
  split
  · exact .error rfl
  · unfold Rule.ofPieces
    split
    · exact .error rfl
    · split
      · exact .error rfl
      · split
        · exact .error rfl
        · dsimp only
          split
          · exact .error rfl
          · exact .ok _

end RefusesTexts

/-! ## Shapes -/

namespace Value

/-- A value that has not the shape of a rule: it is no sequence or an empty one, or its last
item is no text, or nothing stands in front of that, or a role is no text or an empty one. -/
def IsMalformed (value : Value) : Prop :=
  value.items? = none ∨ ∃ items, value.items? = some items ∧
    (items = [] ∨ (∃ last, items.getLast? = some last ∧ last.text? = none) ∨
      items.dropLast = [] ∨ ∃ role ∈ items.dropLast, role.isNonEmptyText = false)

/-- A value of the grammar: roles and a rule text, where a denial is for everyone alone. -/
def IsGrammatical (value : Value) : Prop :=
  ∃ roles text, value.items? = some (roles ++ [.str text]) ∧
    (IsRuleText "1" text ∨ IsRuleText "0" text ∧ roles = [.str allRole])

end Value

namespace Rule

theorem rolesOf?_eq_none_iff (items : List Value) :
    rolesOf? items = none ↔ ∃ role ∈ items, role.isNonEmptyText = false := by
  induction items with
  | nil => simp [rolesOf?]
  | cons item rest ih =>
      cases item with
      | str role => by_cases empty : role = "" <;> simp [rolesOf?, empty, Value.isNonEmptyText, ih]
      | _ => simp [rolesOf?, Value.isNonEmptyText]

/-- A value without the shape of a rule is refused as an invalid input. -/
theorem parse_of_isMalformed (value : Value) (malformed : value.IsMalformed) :
    ∃ fault, Rule.parse value = .error fault ∧ fault.cls = .invalidInput := by
  unfold Rule.parse
  obtain none | ⟨items, given, malformed⟩ := malformed
  · rw [none]
    exact ⟨_, rfl, rfl⟩
  · rw [given]
    simp only [ofItems]
    split
    · next text last =>
        split
        · exact ⟨_, rfl, rfl⟩
        · next some =>
            obtain rfl | ⟨other, isLast, noText⟩ | none | unnamed := malformed
            · cases last
            · rw [last] at isLast
              cases isLast
              cases noText
            · exact absurd (by rw [none]; rfl) some
            · rw [(rolesOf?_eq_none_iff _).mpr unnamed]
              exact ⟨_, rfl, rfl⟩
    · exact ⟨_, rfl, rfl⟩

/-- Any other value has roles and a text. -/
theorem exists_of_not_isMalformed (value : Value) (formed : ¬value.IsMalformed) :
    ∃ (roles : List Text) (text : Text), roles ≠ [] ∧ (∀ role ∈ roles, role ≠ "") ∧
      value.items? = some ((roles ++ [text]).map .str) := by
  cases given : value.items? with
  | none => exact absurd (Or.inl given) formed
  | some items =>
      have notBad (bad : _) : False := formed (Or.inr ⟨items, given, bad⟩)
      obtain rfl | ⟨front, last, rfl⟩ := List.eq_nil_or_concat items
      · exact (notBad (Or.inl rfl)).elim
      · rw [List.concat_eq_append] at notBad ⊢
        simp only [List.getLast?_concat, List.dropLast_concat] at notBad
        cases last with
        | str text =>
            cases read : rolesOf? front with
            | none =>
                exact (notBad (.inr (.inr (.inr ((rolesOf?_eq_none_iff _).mp read))))).elim
            | some roles =>
                obtain ⟨rfl, named⟩ := (rolesOf?_eq_some_iff _ _).mp read
                refine ⟨roles, text, ?_, named, by simp⟩
                rintro rfl
                exact notBad (.inr (.inr (.inl rfl)))
        | _ => exact (notBad (.inr (.inl ⟨_, rfl, rfl⟩))).elim

end Rule

/-! ## What is accepted -/

namespace Rulebook

variable (book : Rulebook)

/-- Of the values with the shape of a rule, those of the grammar are accepted. -/
theorem exists_enact_iff (value : Value) (roles : List Text) (text : Text)
    (some_role : roles ≠ []) (named : ∀ role ∈ roles, role ≠ "")
    (given : value.items? = some ((roles ++ [text]).map .str)) :
    (∃ made, book.enact value = .ok made) ↔ value.IsGrammatical := by
  constructor
  · rintro ⟨⟨next, rule⟩, enacted⟩
    obtain ⟨read, added⟩ := (book.enact_eq_ok_iff next value rule).mp enacted
    obtain ⟨written, writable⟩ := (Rule.parse_eq_ok_iff value rule).mp read
    obtain ⟨addresses, spelled, -⟩ := (add_eq_ok_iff _ _ _).mp added
    obtain ⟨isText, -⟩ := rule.isRuleText_of_addresses writable.clauses addresses spelled
    refine ⟨rule.roles.map .str, rule.text, by rw [written, Rule.parts, List.map_append]; rfl, ?_⟩
    cases allow : rule.allow with
    | true =>
        rw [allow] at isText
        exact Or.inl isText
    | false =>
        rw [allow] at isText
        exact Or.inr ⟨isText, by rw [writable.denial allow]; rfl⟩
  · rintro ⟨items, other, same, isText⟩
    obtain ⟨rfl, rfl⟩ : items = roles.map .str ∧ other = text := by
      rw [given, Option.some.injEq, List.map_append, List.map_singleton] at same
      obtain ⟨front, last⟩ := List.append_inj' same rfl
      exact ⟨front.symm, by simpa using last.symm⟩
    have accepted (allow : Bool) (denial : allow = false → roles = [allRole])
        (isText : IsRuleText (decisionMark allow) other) : ∃ made, book.enact value = .ok made := by
      obtain ⟨rule, rfl, rfl, rfl, clauses, addresses, spelled⟩ :=
        Rule.exists_of_isRuleText roles allow other isText
      have read := (Rule.parse_eq_ok_iff value rule).mpr ⟨given, some_role, named, clauses, denial⟩
      exact ⟨_, (book.enact_eq_ok_iff _ value rule).mpr
        ⟨read, (add_eq_ok_iff _ _ _).mpr ⟨addresses, spelled, rfl⟩⟩⟩
    obtain allowed | ⟨denied, everyone⟩ := isText
    · exact accepted true (fun denied => by cases denied) allowed
    · refine accepted false (fun _ => ?_) denied
      exact (List.map_inj_right fun _ _ => Value.str.inj).mp everyone

/-- **Exactly the rules of the grammar are accepted**, whatever rules there are. What is
refused is an invalid input if it has not the shape of a rule, and else an invalid rule. -/
theorem enact_iff_isGrammatical (value : Value) :
    ((∃ fault, book.enact value = .error fault ∧ fault.cls = .invalidInput) ↔
        value.IsMalformed) ∧
      ((∃ fault, book.enact value = .error fault ∧ fault.cls = .invalidRule) ↔
        ¬value.IsMalformed ∧ ¬value.IsGrammatical) ∧
      ((∃ made, book.enact value = .ok made) ↔ ¬value.IsMalformed ∧ value.IsGrammatical) := by
  by_cases malformed : value.IsMalformed
  · obtain ⟨fault, read, cls⟩ := Rule.parse_of_isMalformed value malformed
    have refused : book.enact value = .error fault :=
      (book.enact_eq_error_iff value fault).mpr (Or.inl read)
    simp [refused, cls, malformed]
  · obtain ⟨roles, text, some_role, named, given⟩ :=
      Rule.exists_of_not_isMalformed value malformed
    have accepted := book.exists_enact_iff value roles text some_role named given
    cases enacted : book.enact value with
    | ok made =>
        have grammatical := accepted.mp ⟨made, enacted⟩
        simp [malformed, grammatical]
    | error fault =>
        have ungrammatical : ¬value.IsGrammatical := fun grammatical => by
          obtain ⟨made, enacted'⟩ := accepted.mpr grammatical
          rw [enacted] at enacted'
          cases enacted'
        have cls : fault.cls = .invalidRule := by
          obtain unread | ⟨rule, -, refused⟩ := (book.enact_eq_error_iff value fault).mp enacted
          · obtain ⟨source, read⟩ := Rule.ofItems_map_str roles text some_role named
            rw [Rule.parse, given] at unread
            exact RefusesTexts.ofText source roles text fault (read.symm.trans unread)
          · exact RefusesTexts.addresses rule fault refused
        simp [malformed, ungrammatical, cls]

end Rulebook

end RoleAccess
