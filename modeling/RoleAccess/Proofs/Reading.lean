import RoleAccess.Rule.Parser
set_option autoImplicit false

/-! # Rules are read from their written form

Reading a rule loses nothing: a value is read as a rule exactly if it has the parts that the
rule is written with and the rule can be written at all, which takes at least one role,
roles and clauses that are names, and a denial for nobody but everyone.
-/

namespace RoleAccess

/-- A name between two colons: it is not empty, and there is no colon in it. -/
def IsName (name : Text) : Prop := name ≠ "" ∧ (':' : CodePoint) ∉ name.toList

theorem Resource.ofName?_eq_some_iff (name : Text) (resource : Resource) :
    Resource.ofName? name = some resource ↔ resource.name = name := by
  constructor
  · intro read
    unfold Resource.ofName? at read
    split at read
    · next h => cases read; exact h.symm
    · split at read
      · next h => cases read; exact h.symm
      · split at read
        · next h => cases read; exact h.symm
        · split at read
          · next h => cases read; exact h.symm
          · cases read
  · rintro rfl
    exact Resource.ofName?_name resource

theorem Resource.colon_not_mem_name (resource : Resource) :
    (':' : CodePoint) ∉ resource.name.toList := by
  cases resource <;> decide

theorem colon_not_mem_decisionMark (allow : Bool) :
    (':' : CodePoint) ∉ (decisionMark allow).toList := by
  cases allow <;> decide

namespace Rule

/-- A rule that has a written form. -/
structure IsWritable (rule : Rule) : Prop where
  some_role : rule.roles ≠ []
  roles : ∀ role ∈ rule.roles, role ≠ ""
  clauses : ∀ clause ∈ rule.clauses, IsName clause
  denial : rule.allow = false → rule.roles = [allRole]

/-! ## The parts of a rule -/

theorem rolesOf?_eq_some_iff (items : List Value) (roles : List Text) :
    rolesOf? items = some roles ↔ items = roles.map .str ∧ ∀ role ∈ roles, role ≠ "" := by
  constructor
  · intro read
    induction items generalizing roles with
    | nil =>
        cases read
        exact ⟨rfl, nofun⟩
    | cons item rest ih =>
        cases item with
        | str role =>
            simp only [rolesOf?] at read
            split at read
            · cases read
            · next given =>
                obtain ⟨others, hothers, rfl⟩ := Option.map_eq_some_iff.mp read
                obtain ⟨rfl, named⟩ := ih others hothers
                exact ⟨rfl, List.forall_mem_cons.mpr ⟨given, named⟩⟩
        | _ => cases read
  · rintro ⟨rfl, named⟩
    induction roles with
    | nil => rfl
    | cons role rest ih =>
        obtain ⟨given, others⟩ := List.forall_mem_cons.mp named
        simp [rolesOf?, given, ih others]

theorem decisionOf?_eq_some_iff (last : Option Text) (allow : Bool) :
    decisionOf? last = some allow ↔ last = some (decisionMark allow) := by
  constructor
  · intro read
    unfold decisionOf? at read
    split at read
    · next denied =>
        cases read
        exact denied
    · split at read
      · next allowed =>
          cases read
          exact allowed
      · cases read
  · rintro rfl
    cases allow <;> rfl

/-- The pieces of a rule text are the resource, the clauses and the decision. -/
theorem ofPieces_eq_ok_iff (source : Text) (roles : List Text) (first : Text)
    (rest : List Text) (rule : Rule) :
    ofPieces source roles first rest = .ok rule ↔
      rule.roles = roles ∧ (rule.allow = false → roles = [allRole]) ∧ ("" : Text) ∉ rule.clauses ∧
        first = rule.resource.name ∧ rest = rule.clauses ++ [decisionMark rule.allow] := by
  constructor
  · intro read
    unfold ofPieces at read
    split at read
    · cases read
    · next allow hallow =>
        split at read
        · cases read
        · next guarded =>
            split at read
            · cases read
            · next resource hresource =>
                simp only at read
                split at read
                · cases read
                · next some =>
                    cases read
                    obtain ⟨before, rfl⟩ := List.getLast?_eq_some_iff.mp
                      ((decisionOf?_eq_some_iff _ _).mp hallow)
                    refine ⟨rfl, ?_, some, ?_, ?_⟩
                    · exact fun denied => Decidable.not_not.mp fun others =>
                        guarded ⟨denied, others⟩
                    · exact ((Resource.ofName?_eq_some_iff _ _).mp hresource).symm
                    · simp
  · obtain ⟨roles', resource, clauses, allow⟩ := rule
    rintro ⟨rfl, denial, some, rfl, rfl⟩
    have guarded : ¬ (allow = false ∧ roles' ≠ [allRole]) := fun h => h.2 (denial h.1)
    have decided : decisionOf? (clauses ++ [decisionMark allow]).getLast? = Option.some allow :=
      (decisionOf?_eq_some_iff _ _).mpr List.getLast?_concat
    simp only [ofPieces, decided, if_neg guarded, Resource.ofName?_name, List.dropLast_concat]
    rw [if_neg some]

theorem ofText_eq_ok_iff (source : Text) (roles : List Text) (text : Text) (rule : Rule) :
    ofText source roles text = .ok rule ↔
      rule.roles = roles ∧ (rule.allow = false → roles = [allRole]) ∧
        (∀ clause ∈ rule.clauses, IsName clause) ∧ text = rule.text := by
  constructor
  · intro read
    unfold ofText at read
    split at read
    · cases read
    · next first rest pieces =>
        obtain ⟨hroles, denial, some, rfl, rfl⟩ := (ofPieces_eq_ok_iff _ _ _ _ _).mp read
        refine ⟨hroles, denial, fun clause hclause => ⟨?_, ?_⟩, ?_⟩
        · rintro rfl
          exact some hclause
        · have piece : clause ∈ Text.splitOn ':' text := by simp [pieces, hclause]
          obtain ⟨chars, hchars, rfl⟩ := List.mem_map.mp piece
          simpa using Text.not_mem_of_mem_split ':' _ chars hchars
        · rw [Rule.text, ← pieces, Text.joinWith_splitOn]
  · rintro ⟨hroles, denial, names, rfl⟩
    have pieces : Text.splitOn ':' rule.text =
        rule.resource.name :: (rule.clauses ++ [decisionMark rule.allow]) := by
      refine Text.splitOn_joinWith ':' _ (by simp) fun piece hpiece => ?_
      simp only [List.mem_cons, List.mem_append, List.not_mem_nil, or_false] at hpiece
      obtain rfl | hclause | rfl := hpiece
      · exact rule.resource.colon_not_mem_name
      · exact (names piece hclause).2
      · exact colon_not_mem_decisionMark rule.allow
    simp only [ofText, pieces]
    exact (ofPieces_eq_ok_iff _ _ _ _ _).mpr
      ⟨hroles, denial, fun empty => (names "" empty).1 rfl, rfl, rfl⟩

/-- The text of some items is read for the roles in front of it. -/
theorem ofItems_map_str (roles : List Text) (text : Text) (some_role : roles ≠ [])
    (named : ∀ role ∈ roles, role ≠ "") :
    ∃ source, ofItems ((roles ++ [text]).map .str) = ofText source roles text := by
  have read : rolesOf? (roles.map .str) = some roles :=
    (rolesOf?_eq_some_iff _ _).mpr ⟨rfl, named⟩
  have some : (roles.map Value.str).isEmpty = false := by simpa using some_role
  refine ⟨Text.joinWith ',' (((roles ++ [text]).map .str).map Value.plain), ?_⟩
  simp only [ofItems, List.map_append, List.map_singleton, List.getLast?_concat,
    List.dropLast_concat, some, read, Bool.false_eq_true, if_false]

theorem ofItems_eq_ok_iff (items : List Value) (rule : Rule) :
    ofItems items = .ok rule ↔ items = rule.parts.map .str ∧ rule.IsWritable := by
  constructor
  · intro read
    unfold ofItems at read
    simp only at read
    split at read
    · next text last =>
        obtain ⟨before, rfl⟩ := List.getLast?_eq_some_iff.mp last
        rw [List.dropLast_concat] at read
        split at read
        · cases read
        · next some =>
            split at read
            · cases read
            · next roles hroles =>
                obtain ⟨rfl, denial, clauses, rfl⟩ := (ofText_eq_ok_iff _ _ _ _).mp read
                obtain ⟨rfl, named⟩ := (rolesOf?_eq_some_iff _ _).mp hroles
                refine ⟨by simp [parts], ?_, named, clauses, denial⟩
                intro none
                exact some (by rw [none]; rfl)
    · cases read
  · rintro ⟨rfl, writable⟩
    obtain ⟨source, read⟩ := ofItems_map_str rule.roles rule.text writable.some_role writable.roles
    rw [parts, read]
    exact (ofText_eq_ok_iff _ _ _ _).mpr ⟨rfl, writable.denial, writable.clauses, rfl⟩

/-- **A value is read as a rule exactly if it has the parts that the rule is written with.** -/
theorem parse_eq_ok_iff (value : Value) (rule : Rule) :
    Rule.parse value = .ok rule ↔
      value.items? = some (rule.parts.map .str) ∧ rule.IsWritable := by
  unfold Rule.parse
  cases value.items? with
  | none => simp
  | some items => rw [ofItems_eq_ok_iff, Option.some.injEq]

/-! ## What is read -/

/-- What is read as a rule has the parts that the rule is written with. -/
theorem items?_of_parse (value : Value) (rule : Rule) (read : Rule.parse value = .ok rule) :
    value.items? = some (rule.parts.map .str) :=
  ((parse_eq_ok_iff value rule).mp read).1

theorem isWritable_of_parse (value : Value) (rule : Rule) (read : Rule.parse value = .ok rule) :
    rule.IsWritable :=
  ((parse_eq_ok_iff value rule).mp read).2

/-- Rules that are read from some values are written with the items of the values. -/
theorem map_parts_of_read (values : List Value) (rules : List Rule)
    (read : values.map Rule.parse = rules.map .ok) :
    rules.map (fun rule => Value.list (rule.parts.map .str)) =
      values.map fun value => .list (value.items?.getD []) := by
  induction rules generalizing values with
  | nil =>
      obtain rfl : values = [] := List.map_eq_nil_iff.mp read
      rfl
  | cons rule rest ih =>
      obtain ⟨value, others, rfl, first, remaining⟩ := List.map_eq_cons_iff.mp read
      rw [List.map_cons, List.map_cons, ih others remaining, items?_of_parse value rule first,
        Option.getD_some]

/-! ## Reading and writing -/

/-- A rule is named in messages by the items that it is read from. -/
theorem source_eq_of_items (rule : Rule) (items : List Value)
    (written : items = rule.parts.map .str) :
    rule.source = Text.joinWith ',' (items.map Value.plain) := by
  have plain : items.map Value.plain = rule.parts := by
    rw [written, List.map_map]
    exact List.map_id rule.parts
  rw [plain, source]

/-- **Reading and writing are inverse.** What is read as a rule is written with the very items
that it was read from, which also name it in messages. A rule that can be written is read from
the items that it is written with as it is, be they a list or a tuple. -/
theorem parse_inverse :
    (∀ (value : Value) (rule : Rule), Rule.parse value = .ok rule →
      ∃ items, value.items? = some items ∧ items = rule.parts.map .str ∧
        rule.source = Text.joinWith ',' (items.map Value.plain)) ∧
    ∀ rule : Rule, rule.IsWritable → ∀ value : Value,
      value.items? = some (rule.parts.map .str) → Rule.parse value = .ok rule := by
  constructor
  · intro value rule read
    exact ⟨_, items?_of_parse value rule read, rfl, rule.source_eq_of_items _ rfl⟩
  · intro rule writable value written
    exact (parse_eq_ok_iff value rule).mpr ⟨written, writable⟩

/-- Clauses that look like a decision, a scope or a resource are read as clauses, and roles may
hold colons and commas. -/
theorem parse_inverse_look_alikes :
    let rule : Rule :=
      { roles := ["a:b", "c,d"], resource := .model, clauses := ["0", "own", "model", "any"],
        allow := true }
    let value := Value.tuple [.str "a:b", .str "c,d", .str "model:0:own:model:any:1"]
    rule.IsWritable ∧ Rule.parse value = .ok rule ∧
      rule.source = "a:b,c,d,model:0:own:model:any:1" := by
  intro rule value
  obtain ⟨written, read⟩ := parse_inverse
  have clauses : ∀ clause ∈ rule.clauses, clause ≠ "" ∧ (':' : CodePoint) ∉ clause.toList := by
    decide
  have writable : rule.IsWritable :=
    { some_role := by decide, roles := by decide, denial := nofun, clauses }
  have text : rule.text = "model:0:own:model:any:1" := by decide +kernel
  have parsed : Rule.parse value = .ok rule := by
    refine read rule writable value ?_
    rw [parts, text]
    rfl
  obtain ⟨items, given, -, named⟩ := written value rule parsed
  cases given
  exact ⟨writable, parsed, named.trans (by decide +kernel)⟩

end Rule

end RoleAccess
