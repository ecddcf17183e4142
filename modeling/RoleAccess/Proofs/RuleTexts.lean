import RoleAccess.Proofs.Paths
import RoleAccess.Proofs.Reading
import RoleAccess.Proofs.Targets
set_option autoImplicit false

/-! # Rule texts

A rule text spells what a rule is about and the decision, with colons between the parts.
`IsRuleText` lists the twelve forms that there are, written out as texts. These are exactly
the texts of rules whose clauses are names and spell addresses.
-/

namespace RoleAccess

/-! ## Paths in rule texts -/

/-- A segment in a rule text is a name without a slash. -/
def IsSegment (segment : Text) : Prop := IsName segment ∧ ('/' : CodePoint) ∉ segment.toList

/-- A path in a rule text is a slash alone, or at least one segment with a slash in front of
each, and perhaps one more slash at the end. -/
def IsPath (path : Text) : Prop :=
  path = "/" ∨ ∃ segments, segments ≠ [] ∧ (∀ segment ∈ segments, IsSegment segment) ∧
    (path = Path.slashed segments ∨ path = Path.slashed segments ++ "/")

/-- A path has segments between its slashes, and nothing else is without a segment than what
follows the last of them. -/
theorem isPath_iff_slashed (path : Text) :
    IsPath path ↔ ∃ (front : List Text) (last : Text), path = Path.slashed (front ++ [last]) ∧
      (∀ segment ∈ front, IsSegment segment) ∧ (last = "" ∨ IsSegment last) := by
  constructor
  · rintro (rfl | ⟨segments, some, named, rfl | rfl⟩)
    · exact ⟨[], "", rfl, nofun, Or.inl rfl⟩
    · obtain none | ⟨front, last, rfl⟩ := List.eq_nil_or_concat segments
      · exact absurd none some
      · rw [List.concat_eq_append] at named ⊢
        exact ⟨front, last, rfl, fun segment mem => named segment (List.mem_append_left _ mem),
          Or.inr (named last (by simp))⟩
    · exact ⟨segments, "", by simp [Path.slashed_concat], named, Or.inl rfl⟩
  · rintro ⟨front, last, rfl, named, rfl | segment⟩
    · cases front with
      | nil => exact Or.inl rfl
      | cons first rest =>
          have trailing := Path.slashed_concat (first :: rest) ""
          exact Or.inr ⟨first :: rest, by simp, named, Or.inr (by simpa using trailing)⟩
    · refine Or.inr ⟨front ++ [last], by simp, fun other mem => ?_, Or.inl rfl⟩
      obtain inFront | isLast := List.mem_append.mp mem
      · exact named other inFront
      · rw [List.mem_singleton.mp isLast]
        exact segment

theorem IsName.createAction : IsName RoleAccess.createAction := ⟨by decide, by decide⟩

theorem IsSegment.indexSegment : IsSegment Path.indexSegment :=
  ⟨⟨by decide, by decide⟩, by decide⟩

theorem IsPath.isName {path : Text} (isPath : IsPath path) : IsName path := by
  obtain ⟨front, last, rfl, named, ends⟩ := (isPath_iff_slashed path).mp isPath
  constructor
  · intro empty
    have noChars := congrArg Text.toList empty
    simp [Path.slashed_concat] at noChars
  · intro colon
    obtain slash | ⟨piece, mem, inPiece⟩ := Path.mem_toList_slashed _ _ colon
    · exact absurd slash (by decide)
    · obtain inFront | isLast := List.mem_append.mp mem
      · exact (named piece inFront).1.2 inPiece
      · obtain rfl := List.mem_singleton.mp isLast
        obtain rfl | segment := ends
        · simp at inPiece
        · exact segment.1.2 inPiece

namespace Address

variable (source path : Text)

/-- The segments of a path are what the path is written with. -/
theorem segmentsOf_of_isPath (isPath : IsPath path) :
    segmentsOf source path = .ok (Path.segments path) ∧
      ∀ segment ∈ Path.segments path, IsSegment segment := by
  obtain ⟨front, last, rfl, named, ends⟩ := (isPath_iff_slashed path).mp isPath
  have free : ∀ piece ∈ front ++ [last], ('/' : CodePoint) ∉ piece.toList := by
    intro piece mem
    obtain inFront | isLast := List.mem_append.mp mem
    · exact (named piece inFront).2
    · obtain rfl := List.mem_singleton.mp isLast
      obtain rfl | segment := ends
      · decide
      · exact segment.2
  have segments : ∀ segment ∈ Path.segments (Path.slashed (front ++ [last])),
      IsSegment segment := by
    intro segment mem
    rw [Path.segments_slashed front last free] at mem
    obtain inFront | isLast := List.mem_append.mp mem
    · exact named segment inFront
    · rw [List.mem_singleton.mp isLast, Path.lastSegment]
      split
      · exact .indexSegment
      · next given => exact ends.resolve_left given
  refine ⟨?_, segments⟩
  have absolute : Path.isAbsolute (Path.slashed (front ++ [last])) = true := by
    cases front <;> simp [Path.isAbsolute, Path.toList_slashed]
  rw [segmentsOf, if_pos absolute, if_neg]
  exact fun empty => (segments "" empty).1.1 rfl

/-- What is accepted as a path is one. -/
theorem isPath_of_segmentsOf (named : IsName path) (segments : List Text)
    (accepted : segmentsOf source path = .ok segments) :
    IsPath path ∧ ∀ segment ∈ segments, IsSegment segment := by
  suffices isPath : IsPath path by
    obtain ⟨read, spelled⟩ := segmentsOf_of_isPath source path isPath
    rw [accepted] at read
    cases read
    exact ⟨isPath, spelled⟩
  unfold segmentsOf at accepted
  split at accepted
  · next absolute =>
      obtain ⟨front, last, rfl, free⟩ := Path.exists_slashed path absolute
      split at accepted
      · cases accepted
      · next noneEmpty =>
          rw [Path.segments_slashed front last free] at noneEmpty
          -- a piece of the path has no colon, for the path has none
          have segment (piece : Text) (mem : piece ∈ front ++ [last]) (given : piece ≠ "") :
              IsSegment piece :=
            ⟨⟨given, fun colon => named.2 (Path.mem_toList_of_mem _ piece mem _ colon)⟩,
              free piece mem⟩
          refine (isPath_iff_slashed _).mpr ⟨front, last, rfl, fun piece mem => ?_, ?_⟩
          · refine segment piece (List.mem_append_left _ mem) ?_
            rintro rfl
            exact noneEmpty (List.mem_append_left _ mem)
          · by_cases empty : last = ""
            · exact Or.inl empty
            · exact Or.inr (segment last (by simp) empty)
  · cases accepted

end Address

/-! ## Addresses -/

/-- The names in an address are as rules spell them, and no scope is given for creation. -/
def Address.IsSpelled : Address → Prop
  | .models | .modules => True
  | .model name | .creation name | .module name => IsName name
  | .action name act _ => IsName name ∧ IsName act ∧ act ≠ createAction
  | .state name act condition _ =>
      IsName name ∧ IsName act ∧ act ≠ createAction ∧ IsName condition
  | .moduleMethod name method => IsName name ∧ IsName method
  | .route segments => ∀ segment ∈ segments, IsSegment segment
  | .routeMethod segments method => (∀ segment ∈ segments, IsSegment segment) ∧ IsName method

/-! ## Rule texts -/

/-- The rule texts that end in a mark for the decision. -/
inductive IsRuleText (mark : Text) : Text → Prop
  | blanket : IsRuleText mark ("*:" ++ mark)
  | models : IsRuleText mark ("model:" ++ mark)
  | model (model : Text) (named : IsName model) :
      IsRuleText mark ("model:" ++ model ++ ":" ++ mark)
  | creation (model : Text) (named : IsName model) :
      IsRuleText mark ("model:" ++ model ++ ":" ++ createAction ++ ":" ++ mark)
  | action (model action : Text) (scope : Scope) (named : IsName model) (acts : IsName action)
      (hne : action ≠ createAction) :
      IsRuleText mark ("model:" ++ model ++ ":" ++ action ++ ":" ++ scope.name ++ ":" ++ mark)
  | state (model action state : Text) (scope : Scope) (named : IsName model)
      (acts : IsName action) (stated : IsName state) (hne : action ≠ createAction) :
      IsRuleText mark
        ("model:" ++ model ++ ":" ++ action ++ ":" ++ state ++ ":" ++ scope.name ++ ":" ++ mark)
  | modules : IsRuleText mark ("module:" ++ mark)
  | module (module : Text) (named : IsName module) :
      IsRuleText mark ("module:" ++ module ++ ":" ++ mark)
  | moduleMethod (module method : Text) (named : IsName module) (methodNamed : IsName method) :
      IsRuleText mark ("module:" ++ module ++ ":" ++ method ++ ":" ++ mark)
  | routes : IsRuleText mark ("route:" ++ mark)
  | route (path : Text) (isPath : IsPath path) :
      IsRuleText mark ("route:" ++ path ++ ":" ++ mark)
  | routeMethod (path method : Text) (isPath : IsPath path) (methodNamed : IsName method) :
      IsRuleText mark ("route:" ++ path ++ ":" ++ method ++ ":" ++ mark)

namespace Rule

/-- Clauses with a colon behind each. -/
def coloned : List Text → Text
  | [] => ""
  | clause :: rest => clause ++ ":" ++ coloned rest

theorem joinWith_eq_coloned (first : Text) (clauses : List Text) (last : Text) :
    Text.joinWith ':' (first :: (clauses ++ [last])) =
      first ++ ":" ++ coloned clauses ++ last := by
  induction clauses generalizing first with
  | nil => simp [Text.joinWith, Text.join, coloned, ← Text.toList_inj]
  | cons clause rest ih =>
      have step : Text.joinWith ':' (first :: clause :: (rest ++ [last])) =
          first ++ ":" ++ Text.joinWith ':' (clause :: (rest ++ [last])) := by
        simp [Text.joinWith, Text.join, ← Text.toList_inj]
      rw [List.cons_append, step, ih clause]
      simp only [coloned, Text.append_assoc]

theorem text_eq (rule : Rule) :
    rule.text = rule.resource.name ++ ":" ++ coloned rule.clauses ++ decisionMark rule.allow :=
  joinWith_eq_coloned _ _ _

section Clauses

variable (source mark : Text) (clauses : List Text)
  (named : ∀ clause ∈ clauses, IsName clause)

include named

theorem isRuleText_of_modelClauses (address : Address)
    (accepted : Address.ofModelClauses source clauses = .ok address) :
    IsRuleText mark ("model:" ++ coloned clauses ++ mark) ∧ address.IsSpelled := by
  unfold Address.ofModelClauses at accepted
  split at accepted
  · cases accepted
    exact ⟨by simpa [coloned] using @IsRuleText.models mark, trivial⟩
  · next model =>
      cases accepted
      have modelNamed := named model (by simp)
      refine ⟨?_, modelNamed⟩
      simpa [coloned, ← Text.append_assoc] using @IsRuleText.model mark model modelNamed
  · next model action =>
      split at accepted
      · next creates =>
          cases accepted
          subst creates
          have modelNamed := named model (by simp)
          refine ⟨?_, modelNamed⟩
          simpa [coloned, ← Text.append_assoc] using @IsRuleText.creation mark model modelNamed
      · cases accepted
  · next model action clause =>
      split at accepted
      · cases accepted
      · next hne =>
          obtain ⟨scope, hscope, rfl⟩ := (map_eq_ok_iff _ _ _).mp accepted
          obtain rfl := (Address.scopeOf_eq_ok_iff _ _ _).mp hscope
          have modelNamed := named model (by simp)
          have acts := named action (by simp)
          refine ⟨?_, modelNamed, acts, hne⟩
          simpa [coloned, ← Text.append_assoc] using
            @IsRuleText.action mark model action scope modelNamed acts hne
  · next model action state clause =>
      split at accepted
      · cases accepted
      · next hne =>
          obtain ⟨scope, hscope, rfl⟩ := (map_eq_ok_iff _ _ _).mp accepted
          obtain rfl := (Address.scopeOf_eq_ok_iff _ _ _).mp hscope
          have modelNamed := named model (by simp)
          have acts := named action (by simp)
          have stated := named state (by simp)
          refine ⟨?_, modelNamed, acts, hne, stated⟩
          simpa [coloned, ← Text.append_assoc] using
            @IsRuleText.state mark model action state scope modelNamed acts stated hne
  · cases accepted

theorem isRuleText_of_moduleClauses (address : Address)
    (accepted : Address.ofModuleClauses source clauses = .ok address) :
    IsRuleText mark ("module:" ++ coloned clauses ++ mark) ∧ address.IsSpelled := by
  unfold Address.ofModuleClauses at accepted
  split at accepted
  · cases accepted
    exact ⟨by simpa [coloned] using @IsRuleText.modules mark, trivial⟩
  · next module =>
      cases accepted
      have moduleNamed := named module (by simp)
      refine ⟨?_, moduleNamed⟩
      simpa [coloned, ← Text.append_assoc] using @IsRuleText.module mark module moduleNamed
  · next module method =>
      cases accepted
      have moduleNamed := named module (by simp)
      have methodNamed := named method (by simp)
      refine ⟨?_, moduleNamed, methodNamed⟩
      simpa [coloned, ← Text.append_assoc] using
        @IsRuleText.moduleMethod mark module method moduleNamed methodNamed
  · cases accepted

theorem isRuleText_of_routeClauses (address : Address)
    (accepted : Address.ofRouteClauses source clauses = .ok address) :
    IsRuleText mark ("route:" ++ coloned clauses ++ mark) ∧ address.IsSpelled := by
  unfold Address.ofRouteClauses at accepted
  split at accepted
  · cases accepted
    exact ⟨by simpa [coloned] using @IsRuleText.routes mark, nofun⟩
  · next path =>
      obtain ⟨segments, hpath, rfl⟩ := (map_eq_ok_iff _ _ _).mp accepted
      obtain ⟨isPath, spelled⟩ :=
        Address.isPath_of_segmentsOf source path (named path (by simp)) segments hpath
      refine ⟨?_, spelled⟩
      simpa [coloned, ← Text.append_assoc] using @IsRuleText.route mark path isPath
  · next path method =>
      obtain ⟨segments, hpath, rfl⟩ := (map_eq_ok_iff _ _ _).mp accepted
      obtain ⟨isPath, spelled⟩ :=
        Address.isPath_of_segmentsOf source path (named path (by simp)) segments hpath
      have methodNamed := named method (by simp)
      refine ⟨?_, spelled, methodNamed⟩
      simpa [coloned, ← Text.append_assoc] using
        @IsRuleText.routeMethod mark path method isPath methodNamed
  · cases accepted

end Clauses

/-- A rule with names for clauses that spells addresses has a text of the grammar, and the
addresses are as rules spell them. -/
theorem isRuleText_of_addresses (rule : Rule) (named : ∀ clause ∈ rule.clauses, IsName clause)
    (addresses : List Address) (spelled : rule.addresses = .ok addresses) :
    IsRuleText (decisionMark rule.allow) rule.text ∧
      ∀ address ∈ addresses, address.IsSpelled := by
  obtain ⟨roles, resource, clauses, allow⟩ := rule
  rw [text_eq]
  cases resource with
  | blanket =>
      simp only [Rule.addresses] at spelled
      split at spelled
      · next none =>
          subst none
          cases spelled
          refine ⟨IsRuleText.blanket, ?_⟩
          simp [Address.blanket, Address.IsSpelled]
      · cases spelled
  | model =>
      obtain ⟨address, accepted, rfl⟩ := (map_eq_ok_iff _ _ _).mp spelled
      rw [List.forall_mem_singleton]
      exact isRuleText_of_modelClauses _ _ clauses named address accepted
  | module =>
      obtain ⟨address, accepted, rfl⟩ := (map_eq_ok_iff _ _ _).mp spelled
      rw [List.forall_mem_singleton]
      exact isRuleText_of_moduleClauses _ _ clauses named address accepted
  | route =>
      obtain ⟨address, accepted, rfl⟩ := (map_eq_ok_iff _ _ _).mp spelled
      rw [List.forall_mem_singleton]
      exact isRuleText_of_routeClauses _ _ clauses named address accepted

/-- Every text of the grammar is the text of such a rule, whoever the rule is for. -/
theorem exists_of_isRuleText (roles : List Text) (allow : Bool) (text : Text)
    (isText : IsRuleText (decisionMark allow) text) :
    ∃ rule : Rule, rule.roles = roles ∧ rule.allow = allow ∧ rule.text = text ∧
      (∀ clause ∈ rule.clauses, IsName clause) ∧ ∃ addresses, rule.addresses = .ok addresses := by
  -- the clauses tell everything: what is left is to see that they are names and are accepted
  have spelled (resource : Resource) (clauses : List Text) (addresses : List Address)
      (written : resource.name ++ ":" ++ coloned clauses ++ decisionMark allow = text)
      (named : ∀ clause ∈ clauses, IsName clause)
      (accepted : Rule.addresses { roles, resource, clauses, allow } = .ok addresses) :
      ∃ rule : Rule, rule.roles = roles ∧ rule.allow = allow ∧ rule.text = text ∧
        (∀ clause ∈ rule.clauses, IsName clause) ∧
          ∃ addresses, rule.addresses = .ok addresses :=
    ⟨{ roles, resource, clauses, allow }, rfl, rfl, (text_eq _).trans written, named, _, accepted⟩
  have scopeNamed (scope : Scope) : IsName scope.name := by
    cases scope <;> exact ⟨by decide, by decide⟩
  cases isText with
  | blanket => exact spelled .blanket [] _ rfl nofun rfl
  | models => exact spelled .model [] _ rfl nofun rfl
  | model model named =>
      refine spelled .model [model] _ ?_ (by simpa using named) rfl
      simp [coloned, Resource.name, ← Text.append_assoc, ← Text.ofString_append]
  | creation model named =>
      refine spelled .model [model, createAction] _ ?_ (by simpa using ⟨named, .createAction⟩) rfl
      simp [coloned, Resource.name, ← Text.append_assoc, ← Text.ofString_append]
  | action model action scope named acts hne =>
      refine spelled .model [model, action, scope.name] [.action model action scope] ?_
        (by simpa using ⟨named, acts, scopeNamed scope⟩) ?_
      · simp [coloned, Resource.name, ← Text.append_assoc, ← Text.ofString_append]
      · simp [addresses, Address.ofModelClauses, hne, Address.scopeOf, Scope.ofName?_name,
          Except.map]
  | state model action state scope named acts stated hne =>
      refine spelled .model [model, action, state, scope.name] [.state model action state scope]
        ?_ (by simpa using ⟨named, acts, stated, scopeNamed scope⟩) ?_
      · simp [coloned, Resource.name, ← Text.append_assoc, ← Text.ofString_append]
      · simp [addresses, Address.ofModelClauses, hne, Address.scopeOf, Scope.ofName?_name,
          Except.map]
  | modules => exact spelled .module [] _ rfl nofun rfl
  | module module named =>
      refine spelled .module [module] _ ?_ (by simpa using named) rfl
      simp [coloned, Resource.name, ← Text.append_assoc, ← Text.ofString_append]
  | moduleMethod module method named methodNamed =>
      refine spelled .module [module, method] _ ?_ (by simpa using ⟨named, methodNamed⟩) rfl
      simp [coloned, Resource.name, ← Text.append_assoc, ← Text.ofString_append]
  | routes => exact spelled .route [] _ rfl nofun rfl
  | route path isPath =>
      refine spelled .route [path] [.route (Path.segments path)] ?_
        (by simpa using isPath.isName) ?_
      · simp [coloned, Resource.name, ← Text.append_assoc, ← Text.ofString_append]
      · simp [addresses, Address.ofRouteClauses, (Address.segmentsOf_of_isPath _ _ isPath).1,
          Except.map]
  | routeMethod path method isPath methodNamed =>
      refine spelled .route [path, method] [.routeMethod (Path.segments path) method] ?_
        (by simpa using ⟨isPath.isName, methodNamed⟩) ?_
      · simp [coloned, Resource.name, ← Text.append_assoc, ← Text.ofString_append]
      · simp [addresses, Address.ofRouteClauses, (Address.segmentsOf_of_isPath _ _ isPath).1,
          Except.map]

end Rule

end RoleAccess
