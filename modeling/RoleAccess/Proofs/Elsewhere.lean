import RoleAccess.Proofs.ModuleMeaning
import RoleAccess.Proofs.OwnRules
import RoleAccess.Proofs.TypedQueries
set_option autoImplicit false

/-! # Rules about something else

A rule can share places with what a query is judged by and still have no say in it: a rule
about an action makes the page of the model that other actions are found on, and a rule about a
path makes all the branches above. What counts is what the levels of the query say, and
whether there is a page for the action that it asks about. A rule that names something else
than what is asked about (`Rule.PassesBy`) moves neither.
-/

namespace RoleAccess

/-! ## Rules that pass a query by -/

/-- What a rule has to be about to count for a query, unless it is about everything. -/
def Query.resource : Query → Resource
  | .model _ | .modelScope _ => .model
  | .module _ => .module
  | .route _ => .route

namespace Rule

/-- A rule has a clause that is something else than what is asked about. -/
def NamesOther (rule : Rule) (k : Nat) (asked : Value) : Prop :=
  ∃ clause, rule.clauses[k]? = some clause ∧ asked ≠ .str clause

/-- What a rule of the same resource names is not what a query asks about. -/
def AimsElsewhere (rule : Rule) : Query → Prop
  | .model r | .modelScope r => rule.NamesOther 0 r.model ∨ rule.NamesOther 1 r.action
  | .module r => rule.NamesOther 0 r.module ∨ rule.NamesOther 1 r.method
  | .route r =>
      (∃ path, r.path = .str path ∧ ¬rule.pathSegments <+: Path.segments path) ∨
        rule.NamesOther 1 r.method

/-- A rule that is not about everything passes a query by: it is about another resource, or
about other things of the resource. -/
def PassesBy (rule : Rule) (query : Query) : Prop :=
  rule.resource ≠ .blanket ∧ (rule.resource = query.resource → rule.AimsElsewhere query)

variable {rule : Rule}

section Models

variable {model action : Text}
  (other : rule.resource = .model →
    rule.NamesOther 0 (.str model) ∨ rule.NamesOther 1 (.str action))

include other

/-- A rule about another model or another action is not about the action. -/
theorem not_concerns_of_namesOther : ¬rule.Concerns model action := by
  rintro ⟨resource, named⟩
  have first : rule.clauses[0]? = some model := by
    rw [← List.getElem?_take_of_lt (by decide : 0 < 2), named]
    rfl
  have second : rule.clauses[1]? = some action := by
    rw [← List.getElem?_take_of_lt (by decide : 1 < 2), named]
    rfl
  obtain ⟨clause, found, ne⟩ | ⟨clause, found, ne⟩ := other resource
  · exact ne (congrArg Value.str (Option.some.inj (first.symm.trans found)))
  · exact ne (congrArg Value.str (Option.some.inj (second.symm.trans found)))

/-- It targets neither the action nor the levels above. -/
theorem not_targets_of_namesOther (narrow : rule.resource ≠ .blanket) (address : Address)
    (judges : address = .models ∨ address = .model model ∨
      address.modelAction? = some (model, action)) : ¬rule.Targets address := by
  intro targets
  obtain rfl | rfl | about := judges
  · obtain blanket | ⟨resource, unnamed⟩ := targets
    · exact narrow blanket
    · simpa [NamesOther, unnamed] using other resource
  · obtain ⟨resource, named⟩ := targets
    simpa [NamesOther, named] using other resource
  · exact not_concerns_of_namesOther other (concerns_of_targets targets about)

end Models

/-- A rule about another module or another method targets none of the levels of the method. -/
theorem not_targets_moduleLevels (narrow : rule.resource ≠ .blanket) {module method : Text}
    (other : rule.resource = .module →
      rule.NamesOther 0 (.str module) ∨ rule.NamesOther 1 (.str method))
    (level : Address) (hlevel : level ∈ moduleLevels module method) : ¬rule.Targets level := by
  intro targets
  simp only [moduleLevels, List.mem_cons, List.not_mem_nil, or_false] at hlevel
  obtain rfl | rfl | rfl := hlevel
  · obtain blanket | ⟨resource, unnamed⟩ := targets
    · exact narrow blanket
    · simpa [NamesOther, unnamed] using other resource
  · obtain ⟨resource, named⟩ := targets
    simpa [NamesOther, named] using other resource
  · obtain ⟨resource, named⟩ := targets
    simpa [NamesOther, named] using other resource

end Rule

/-- A path is judged by what is said about the paths that it goes on from. -/
theorem exists_of_mem_routeLevels (method : Text) (segments : List Text) (level : Address)
    (hlevel : level ∈ routeLevels method segments) :
    ∃ front, front <+: segments ∧ (level = .route front ∨ level = .routeMethod front method) := by
  obtain rfl | below := List.mem_cons.mp hlevel
  · exact ⟨[], List.nil_prefix, Or.inl rfl⟩
  · obtain ⟨k, -, found⟩ := List.mem_flatMap.mp below
    exact ⟨segments.take (k + 1), List.take_prefix _ _, by simpa using found⟩

/-- A rule about a path that is not gone on from, or about another method, targets none of the
levels of a path and a method. -/
theorem Rule.not_targets_routeLevels {rule : Rule} (narrow : rule.resource ≠ .blanket)
    {method : Text} {segments : List Text}
    (other : rule.resource = .route →
      ¬rule.pathSegments <+: segments ∨ rule.NamesOther 1 (.str method))
    (level : Address) (hlevel : level ∈ routeLevels method segments) : ¬rule.Targets level := by
  intro targets
  obtain ⟨front, isPrefix, rfl | rfl⟩ := exists_of_mem_routeLevels method segments level hlevel
  · obtain ⟨blanket, -⟩ | ⟨resource, short, rfl⟩ := targets
    · exact narrow blanket
    · obtain apart | ⟨clause, found, -⟩ := other resource
      · exact apart isPrefix
      · -- a rule at a path has no clause for a method
        rw [List.getElem?_eq_none short] at found
        cases found
  · obtain ⟨resource, rfl, named⟩ := targets
    obtain apart | ⟨clause, found, ne⟩ := other resource
    · exact apart isPrefix
    · rw [← List.getElem?_tail, named] at found
      exact ne (congrArg Value.str (Option.some.inj found))

/-! ## What counts for a query -/

namespace Rulebook

variable (book next : Rulebook) (roles : List Text)

/-- Two rulebooks say the same to some roles about what a query asks. -/
def AgreesOn (book next : Rulebook) (roles : List Text) : Query → Prop
  | .model r | .modelScope r => ∀ model action, r.model = .str model → r.action = .str action →
      next.stance roles model action = book.stance roles model action
  | .module r => ∀ module method, r.module = .str module → r.method = .str method →
      ∀ level ∈ moduleLevels module method, next.opinion roles level = book.opinion roles level
  | .route r => ∀ path method, r.path = .str path → r.method = .str method →
      ∀ level ∈ routeLevels method (Path.segments path),
        next.opinion roles level = book.opinion roles level

/-- What rulebooks say the same about is decided in the same way. -/
theorem result_modelDecision_of_stance (names : OwnerNames) (r : ModelRequest) (typed : r.IsTyped)
    (same : ∀ model action, r.model = .str model → r.action = .str action →
      next.stance roles model action = book.stance roles model action) :
    (next.modelDecision names.ownership (Value.texts roles) r).result =
      (book.modelDecision names.ownership (Value.texts roles) r).result := by
  obtain ⟨q, asks⟩ := typed.exists_asked
  rw [asks.modelDecision_eq, asks.modelDecision_eq, result_modelDecision, result_modelDecision,
    same q.model q.action asks.model asks.action]

variable {book next roles}

/-- Rulebooks that say the same about what a query asks rule in the same way. -/
theorem AgreesOn.ruling_eq {query : Query} (agrees : book.AgreesOn next roles query)
    (typed : query.IsTyped) (names : OwnerNames) :
    next.ruling (Value.texts roles) names.ownership query =
      book.ruling (Value.texts roles) names.ownership query := by
  cases query with
  | model r =>
      have decided := result_modelDecision_of_stance book next roles names r typed agrees
      simp only [ruling, decided]
  | modelScope r =>
      have both := ModelRequest.IsTyped.inScope typed
      have decided (scope : Scope) := result_modelDecision_of_stance book next roles names
        (r.inScope scope) (both scope) agrees
      simp only [ruling, widestRuling, decided]
  | module r =>
      obtain ⟨module, method, hmodule, hmethod⟩ := typed
      have said : next.moduleOpinion roles module method =
          book.moduleOpinion roles module method := by
        rw [moduleOpinion_eq_lastSaid, moduleOpinion_eq_lastSaid]
        exact lastSaid_congr _ (agrees module method hmodule hmethod)
      obtain ⟨_, _, session⟩ := r
      cases hmodule
      cases hmethod
      have decided := next.result_moduleDecision roles module method
      rw [said, ← book.result_moduleDecision roles module method] at decided
      exact congrArg (Except.map _) decided
  | route r =>
      obtain ⟨path, method, hpath, hmethod⟩ := typed
      have said := lastSaid_congr _ (agrees path method hpath hmethod)
      obtain ⟨_, _, session⟩ := r
      cases hpath
      cases hmethod
      have decided := next.result_routeDecision roles method path
      rw [said, ← book.result_routeDecision roles method path] at decided
      exact congrArg (Except.map _) decided

/-! ## One more rule -/

/-- A rule about another model or another action leaves the stance on an action as it is. -/
theorem stance_add_of_namesOther {rule : Rule} (added : book.add rule = .ok next)
    (narrow : rule.resource ≠ .blanket) {model action : Text}
    (other : rule.resource = .model →
      rule.NamesOther 0 (.str model) ∨ rule.NamesOther 1 (.str action)) :
    next.stance roles model action = book.stance roles model action := by
  have untargeted := Rule.not_targets_of_namesOther other narrow
  have kept (address : Address) (about : address.modelAction? = some (model, action)) :
      next.opinion roles address = book.opinion roles address :=
    opinion_add_of_not_targets book next rule added roles address
      (untargeted address (Or.inr (Or.inr about)))
  have general : (next.stance roles model action).general =
      (book.stance roles model action).general := by
    refine general_stance_add roles model action book next rule added fun address judges => ?_
    refine untargeted address (judges.imp_right (Or.imp_right ?_))
    rintro ⟨rfl, rfl⟩
    rfl
  -- a page that is made for the action would be asked for scopes and states
  have refined : (next.stance roles model action).refined =
      (book.stance roles model action).refined := by
    rw [Bool.eq_iff_iff, refined_stance_iff, refined_stance_iff,
      isSome_action?_add book next rule added,
      or_iff_left (Rule.not_concerns_of_namesOther other)]
  have ofScope : (next.stance roles model action).ofScope =
      (book.stance roles model action).ofScope := funext fun scope => kept (.action ..) rfl
  have ofState : (next.stance roles model action).ofState =
      (book.stance roles model action).ofState :=
    funext fun state => funext fun scope => kept (.state ..) rfl
  rw [ModelStance.mk.injEq]
  exact ⟨general, refined, ofScope, ofState⟩

/-- A rule that passes a query by moves nothing that the query is judged by. -/
theorem agreesOn_add {rule : Rule} (added : book.add rule = .ok next) (query : Query)
    (passes : rule.PassesBy query) : book.AgreesOn next roles query := by
  obtain ⟨narrow, other⟩ := passes
  cases query with
  | model r | modelScope r =>
      intro model action hmodel haction
      rw [Rule.AimsElsewhere, hmodel, haction] at other
      exact stance_add_of_namesOther added narrow other
  | module r =>
      intro module method hmodule hmethod level hlevel
      rw [Rule.AimsElsewhere, hmodule, hmethod] at other
      exact opinion_add_of_not_targets book next rule added roles level
        (Rule.not_targets_moduleLevels narrow other level hlevel)
  | route r =>
      intro path method hpath hmethod level hlevel
      rw [Rule.AimsElsewhere, hmethod] at other
      refine opinion_add_of_not_targets book next rule added roles level
        (Rule.not_targets_routeLevels narrow ?_ level hlevel)
      refine fun resource => (other resource).imp_left ?_
      rintro ⟨asked, same, apart⟩
      rw [hpath] at same
      cases same
      exact apart

/-- **Rules affect what they are about and nothing else.** A query of the right types is ruled
on, and a further rule that passes it by does not change the ruling. -/
theorem rule_enactAll_of_passesBy (values : List Value) (value : Value) (rule : Rule)
    (read : Rule.parse value = .ok rule)
    (accepted : (enactAll {} (values ++ [value])).fault = none) (names : OwnerNames)
    (trail : Trail) (roles : List Text) (query : Query) (typed : query.IsTyped)
    (takes : trail.Takes query) (passes : rule.PassesBy query) :
    ∃ ruling,
      ((enactAll {} values).book.rule names.ownership trail (Value.texts roles) query).2 =
        .ok ruling ∧
      ((enactAll {} (values ++ [value])).book.rule names.ownership trail (Value.texts roles)
        query).2 = .ok ruling := by
  have added := add_of_enactAll_append {} values value accepted rule read
  have agrees : (enactAll {} values).book.AgreesOn (enactAll {} (values ++ [value])).book roles
      query := agreesOn_add added query passes
  obtain ⟨ruling, ruled⟩ := (enactAll {} values).book.exists_ruling query typed names roles
  refine ⟨ruling, ?_, ?_⟩
  · rw [snd_rule _ _ _ query takes, ruled]
  · rw [snd_rule _ _ _ query takes, agrees.ruling_eq typed names, ruled]

/-- Where users may do all with models, deleted posts stay readable when nobody may delete posts,
and so does what is below `/a` when a page further down is closed. -/
theorem rule_enactAll_of_passesBy_posts :
    let values := [Value.texts ["user", "model:1"], Value.texts ["user", "route:/a:1"]]
    let deletion := Value.texts ["all", "model:post:delete:deleted:any:0"]
    let page := Value.texts ["all", "route:/a/b/c:0"]
    let r : ModelRequest :=
      { model := .str "post", action := .str "read", states := Value.texts ["deleted"] }
    let path : RouteRequest := { path := .str "/a/b", method := .str "get" }
    let ruled (value : Value) (query : Query) : Except Failure Ruling :=
      ((enactAll {} (values ++ [value])).book.rule ({} : OwnerNames).ownership .off
        (Value.texts ["user"]) query).2
    (enactAll {} (values ++ [deletion])).fault = none ∧
      (enactAll {} (values ++ [page])).fault = none ∧
      ruled deletion (.model r) = .ok (.decision true) ∧
      ruled deletion (.modelScope r) = .ok (.widest (some .any)) ∧
      ruled page (.route path) = .ok (.decision true) := by
  intro values deletion page r path ruled
  let noDeletion : Rule :=
    { roles := ["all"], resource := .model, clauses := ["post", "delete", "deleted", "any"],
      allow := false }
  let noPage : Rule :=
    { roles := ["all"], resource := .route, clauses := ["/a/b/c"], allow := false }
  have typed (scope : Value) (known : scope = .null ∨ ∃ found : Scope, scope = .str found.name) :
      ModelRequest.IsTyped { r with scope } :=
    ⟨⟨_, rfl⟩, ⟨_, rfl⟩, ⟨["deleted"], rfl⟩, Or.inr known⟩
  have otherAction : noDeletion.NamesOther 1 r.action := ⟨"delete", rfl, by simp [r]⟩
  have further : ¬noPage.pathSegments <+: Path.segments "/a/b" := by decide
  obtain ⟨first, before, after⟩ := rule_enactAll_of_passesBy values deletion noDeletion rfl rfl {}
    .off ["user"] (.model r) (typed .null (Or.inl rfl)) rfl ⟨nofun, fun _ => Or.inr otherAction⟩
  obtain ⟨second, before', after'⟩ := rule_enactAll_of_passesBy values deletion noDeletion rfl rfl
    {} .off ["user"] (.modelScope r) (typed _ (Or.inr ⟨.any, rfl⟩)) trivial
    ⟨nofun, fun _ => Or.inr otherAction⟩
  obtain ⟨third, before'', after''⟩ := rule_enactAll_of_passesBy values page noPage rfl rfl {}
    .off ["user"] (.route path) ⟨_, _, rfl, rfl⟩ rfl
    ⟨nofun, fun _ => Or.inl ⟨_, rfl, further⟩⟩
  exact ⟨rfl, rfl, after.trans (before.symm.trans rfl), after'.trans (before'.symm.trans rfl),
    after''.trans (before''.symm.trans rfl)⟩

end Rulebook

end RoleAccess
