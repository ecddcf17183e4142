import RoleAccess.Proofs.Answers
import RoleAccess.Proofs.Routes
set_option autoImplicit false

/-! # What is ruled does not depend on the trail

Queries are ruled on along a trail, and what is left there could in principle stop them: a
complete record refuses every change. `Rulebook.ruling` rules without a trail. A trail that
takes the answers of a query, as every new one does, does not change what is ruled, also
where the ruling ends in a failure. The failures there are have one of two causes, and both
lie with the caller: a value that the decision cannot work with, or a scope that is none.
-/

namespace RoleAccess

/-! ## Failures of the caller -/

/-- A failure for which what a query was given is the cause. -/
def Failure.OfCaller : Failure → Prop
  | request _ | misuse _ => True
  | _ => False

/-- Nobody is told that a record is complete. -/
theorem Failure.OfCaller.cls_ne {e : Failure} (ofCaller : e.OfCaller) :
    e.report?.map ErrorReport.cls ≠ some .invalidAuditState := by
  cases e with
  | request fault => cases fault <;> nofun
  | misuse m => nofun
  | _ => cases ofCaller

namespace Trace

variable {α β : Type}

/-- A computation that fails for no other cause than what it was given. -/
def FailsByCaller (t : Trace α) : Prop := ∀ e, t.result = .error e → e.OfCaller

namespace FailsByCaller

protected theorem pure (a : α) : (pure a : Trace α).FailsByCaller := nofun

protected theorem note (entry : Entry) : (Trace.note entry).FailsByCaller := nofun

protected theorem ofUse (step : Except Misuse α) : (Trace.ofUse step).FailsByCaller := by
  cases step with
  | error m => rintro _ ⟨⟩; trivial
  | ok a => nofun

protected theorem ofRequest (step : Except RequestFault α) :
    (Trace.ofRequest step).FailsByCaller := by
  cases step with
  | error fault => rintro _ ⟨⟩; trivial
  | ok a => nofun

protected theorem bind {t : Trace α} {f : α → Trace β} (first : t.FailsByCaller)
    (second : ∀ a, (f a).FailsByCaller) : (t >>= f).FailsByCaller := by
  intro e failed
  rw [bind_eq, andThen] at failed
  cases result : t.result with
  | error found =>
      rw [result] at failed
      cases failed
      exact first e result
  | ok a =>
      rw [result] at failed
      exact second a e failed

end FailsByCaller

end Trace

open Trace (FailsByCaller)

variable (roles : Value)

/-! ## Levels -/

theorem consultAllows_failsByCaller (ruleType : Text) (allows : Allows) (extra : Table Value) :
    (consultAllows roles ruleType allows extra).FailsByCaller :=
  .bind (.ofUse _) fun _ => .bind (.note _) fun _ => .pure _

theorem applyLevel_failsByCaller (ruleType : Text) (allows : Option Allows)
    (extra : Table Value) (sofar : Bool) :
    (applyLevel roles ruleType allows extra sofar).FailsByCaller := by
  cases allows with
  | none => exact .pure _
  | some allows =>
      exact .bind (consultAllows_failsByCaller roles ruleType allows extra) fun _ => .pure _

theorem consultScope_failsByCaller (ruleType : Text) (allows : Option Allows)
    (extra : Table Value) : (consultScope roles ruleType allows extra).FailsByCaller := by
  cases allows with
  | none => exact .pure _
  | some allows => exact consultAllows_failsByCaller roles ruleType allows extra

/-! ## Models -/

section Models

variable (ownership : Ownership) (r : ModelRequest) (scope : Scope) (states : List Value)

theorem scopeOf_failsByCaller : (ownership.scopeOf r).FailsByCaller := by
  unfold Ownership.scopeOf
  split
  · split
    · exact .pure _
    · exact .ofRequest _
  · exact .bind (.ofUse _) fun _ => .pure _

theorem stateOutcome_failsByCaller (state : Value) (pair : ScopedAllows) :
    (stateOutcome roles scope state pair).FailsByCaller := by
  unfold stateOutcome
  refine .bind (consultScope_failsByCaller roles _ _ _) fun anyVerdict => ?_
  split
  · exact .pure _
  · exact .pure _
  · exact .bind (consultScope_failsByCaller roles _ _ _) fun _ => .pure _

theorem statesDecision_failsByCaller (page : ActionPage) (sofar : Bool) :
    (statesDecision roles scope page states sofar).FailsByCaller := by
  induction states generalizing sofar with
  | nil => exact .pure _
  | cons state rest ih =>
      unfold statesDecision
      refine .bind (.ofUse _) fun found => ?_
      cases found with
      | none =>
          dsimp only
          split
          · exact .pure _
          · exact ih sofar
      | some pair =>
          refine .bind (stateOutcome_failsByCaller roles scope state pair) fun outcome => ?_
          cases outcome with
          | grant => exact ih true
          | deny => exact .pure _
          | keep => exact ih sofar

theorem scopesDecision_failsByCaller (page : ActionPage) (sofar : Bool) :
    (scopesDecision roles scope page sofar).FailsByCaller := by
  unfold scopesDecision
  refine .bind (consultScope_failsByCaller roles _ _ _) fun anyVerdict => ?_
  split
  · exact .pure _
  · exact .pure _
  · exact .pure _
  · exact applyLevel_failsByCaller roles _ _ _ _

theorem actionDecision_failsByCaller (page : ActionPage) (sofar : Bool) :
    (actionDecision ownership roles r states page sofar).FailsByCaller := by
  unfold actionDecision
  refine .bind (applyLevel_failsByCaller roles _ _ _ _) fun allow => ?_
  split
  · exact .pure _
  · refine .bind (scopeOf_failsByCaller ownership r) fun scope => ?_
    refine .bind (statesDecision_failsByCaller roles scope states page allow) fun found => ?_
    cases found with
    | none => exact .pure _
    | some allow => exact scopesDecision_failsByCaller roles scope page allow

theorem ModelPage.decision_failsByCaller (page : ModelPage) (sofar : Bool) :
    (page.decision ownership roles r states sofar).FailsByCaller := by
  refine .bind (applyLevel_failsByCaller roles _ _ _ _) fun allow => ?_
  refine .bind (.ofUse _) fun found => ?_
  cases found with
  | none => exact .pure _
  | some page => exact actionDecision_failsByCaller roles ownership r states page allow

theorem ModelSection.decision_failsByCaller (part : ModelSection) (sofar : Bool) :
    (part.decision ownership roles r states sofar).FailsByCaller := by
  refine .bind (applyLevel_failsByCaller roles _ _ _ _) fun allow => ?_
  refine .bind (.ofUse _) fun found => ?_
  cases found with
  | none => exact .pure _
  | some page => exact page.decision_failsByCaller roles ownership r states allow

theorem Rulebook.modelDecision_failsByCaller (book : Rulebook) :
    (book.modelDecision ownership roles r).FailsByCaller := by
  unfold modelDecision
  refine .bind (.ofUse _) fun states => .bind (.note _) fun _ => ?_
  cases book.models with
  | none => exact .pure _
  | some part => exact part.decision_failsByCaller roles ownership r states _

end Models

/-! ## Modules -/

theorem ModulePage.decision_failsByCaller (page : ModulePage) (r : ModuleRequest)
    (sofar : Bool) : (page.decision roles r sofar).FailsByCaller :=
  .bind (applyLevel_failsByCaller roles _ _ _ _) fun _ =>
    .bind (.ofUse _) fun _ => applyLevel_failsByCaller roles _ _ _ _

theorem ModuleSection.decision_failsByCaller (part : ModuleSection) (r : ModuleRequest)
    (sofar : Bool) : (part.decision roles r sofar).FailsByCaller := by
  refine .bind (applyLevel_failsByCaller roles _ _ _ _) fun allow => ?_
  refine .bind (.ofUse _) fun found => ?_
  cases found with
  | none => exact .pure _
  | some page => exact page.decision_failsByCaller roles r allow

theorem Rulebook.moduleDecision_failsByCaller (book : Rulebook) (r : ModuleRequest) :
    (book.moduleDecision roles r).FailsByCaller := by
  unfold moduleDecision
  cases book.modules with
  | none => exact .pure _
  | some part => exact part.decision_failsByCaller roles r true

/-! ## Routes -/

theorem RouteBranch.visit_failsByCaller (branch : RouteBranch) (method : Value)
    (segment : Text) (sofar : Bool) :
    (branch.visit roles method segment sofar).FailsByCaller := by
  unfold visit
  refine .bind (.ofUse _) fun methodRules => ?_
  split
  · exact .bind (.note _) fun _ => .pure _
  · exact .bind (applyLevel_failsByCaller roles _ _ _ _) fun _ =>
      applyLevel_failsByCaller roles _ _ _ _

theorem RouteBranch.walk_failsByCaller (method : Value) (segments : List Text)
    (branch : RouteBranch) (sofar : Bool) :
    (walk roles method segments branch sofar).FailsByCaller := by
  induction segments generalizing branch sofar with
  | nil => exact .pure _
  | cons segment rest ih =>
      unfold walk
      split
      · exact .pure _
      · next child _ =>
          exact .bind (child.visit_failsByCaller roles method segment sofar) fun allow =>
            ih child allow

theorem Rulebook.routeDecision_failsByCaller (book : Rulebook) (r : RouteRequest) :
    (book.routeDecision roles r).FailsByCaller := by
  unfold routeDecision
  cases book.routes with
  | none => exact .pure _
  | some root =>
      exact .bind (applyLevel_failsByCaller roles _ _ _ _) fun allow =>
        .bind (.ofUse _) fun segments => root.walk_failsByCaller roles r.method segments allow

/-! ## Ruling without a trail -/

namespace Rulebook

variable (book : Rulebook) (ownership : Ownership)

/-- The widest scope that a model request is allowed for. -/
def widestRuling (r : ModelRequest) : Except Failure (Option Scope) :=
  match (book.modelDecision ownership roles (r.inScope .any)).result with
  | .error e => .error e
  | .ok true => .ok (some .any)
  | .ok false =>
      (book.modelDecision ownership roles (r.inScope .own)).result.map fun allow =>
        if allow then some .own else none

/-- What is ruled on a query. -/
def ruling : Query → Except Failure Ruling
  | .model r => (book.modelDecision ownership roles r).result.map .decision
  | .modelScope r => (book.widestRuling roles ownership r).map .widest
  | .module r => (book.moduleDecision roles r).result.map .decision
  | .route r => (book.routeDecision roles r).result.map .decision

/-- If there is no ruling, what the query was given is the cause. -/
theorem ofCaller_of_ruling (query : Query) (e : Failure)
    (failed : book.ruling roles ownership query = .error e) : e.OfCaller := by
  have mapped {α β : Type} {f : α → β} {first : Except Failure α}
      (failed : first.map f = .error e) : first = .error e := by
    cases first with
    | error found => exact congrArg Except.error (Except.error.inj failed)
    | ok a => cases failed
  cases query with
  | model r => exact book.modelDecision_failsByCaller roles ownership r e (mapped failed)
  | module r => exact book.moduleDecision_failsByCaller roles r e (mapped failed)
  | route r => exact book.routeDecision_failsByCaller roles r e (mapped failed)
  | modelScope r =>
      have widest := mapped failed
      unfold widestRuling at widest
      split at widest
      · next found first =>
          cases widest
          exact book.modelDecision_failsByCaller roles ownership _ e first
      · cases widest
      · exact book.modelDecision_failsByCaller roles ownership _ e (mapped widest)

end Rulebook

/-! ## Trails that take a ruling -/

/-- The trail takes the answers of a query. -/
def Trail.Takes (trail : Trail) : Query → Prop
  | .modelScope _ => trail.TakesScope
  | _ => trail.IsOpen

theorem Trail.takes_off (query : Query) : off.Takes query := by
  cases query with
  | modelScope r => trivial
  | model r | module r | route r => rfl

/-- A new record takes the answers of the query that it is for. -/
theorem Trail.takes_kept (id : Value) (query : Query) (args : Table Value) :
    (kept { id, kind := query.kind, args }).Takes query := by
  cases query with
  | modelScope r => exact ⟨rfl, rfl⟩
  | model r | module r | route r => rfl

namespace Rulebook

variable (book : Rulebook) (ownership : Ownership) {trail : Trail}

theorem snd_widestScope (takes : trail.TakesScope) (r : ModelRequest) :
    (book.widestScope ownership trail roles r).2 = book.widestRuling roles ownership r := by
  unfold widestScope widestRuling decideModel
  have first := trail.snd_settle takes.isOpen
    (book.modelDecision ownership roles (r.inScope .any))
  cases anyResult : (book.modelDecision ownership roles (r.inScope .any)).result with
  | error e =>
      rcases settled : trail.settle (book.modelDecision ownership roles (r.inScope .any))
        with ⟨next, answered⟩
      obtain rfl : answered = .error e := by rw [← anyResult, ← first, settled]
      rfl
  | ok anyAllow =>
      obtain ⟨next, settled, takes'⟩ := takes.settle _ anyAllow anyResult
      rw [settled]
      cases anyAllow with
      | true => exact takes'.settleScope _
      | false =>
          -- the second decision is left on what the first one made of the trail
          have second := next.snd_settle takes'.isOpen
            (book.modelDecision ownership roles (r.inScope .own))
          cases ownResult : (book.modelDecision ownership roles (r.inScope .own)).result with
          | error e =>
              rcases settled' : next.settle (book.modelDecision ownership roles (r.inScope .own))
                with ⟨last, answered⟩
              obtain rfl : answered = .error e := by rw [← ownResult, ← second, settled']
              simp only [settled']
              rfl
          | ok ownAllow =>
              obtain ⟨last, settled', takes''⟩ := takes'.settle _ ownAllow ownResult
              simp only [settled']
              cases ownAllow with
              | true => exact takes''.settleScope _
              | false => exact takes''.settleScope _

/-- **A trail that takes the answers of a query does not change what is ruled on it.** -/
theorem snd_rule (query : Query) (takes : trail.Takes query) :
    (book.rule ownership trail roles query).2 = book.ruling roles ownership query := by
  cases query with
  | modelScope r => exact congrArg (Except.map _) (book.snd_widestScope roles ownership takes r)
  | model r | module r | route r => exact congrArg (Except.map _) (trail.snd_settle takes _)

end Rulebook

end RoleAccess
