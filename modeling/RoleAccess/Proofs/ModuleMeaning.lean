import RoleAccess.Proofs.Answers
import RoleAccess.Proofs.Routes
set_option autoImplicit false

/-! # The meaning of module requests

A method of a module is judged by the level of all modules, the level of the module and that of
the method; the last one that has something to say decides (`moduleMeaning`). The rulebook that
rules are put into comes to the same as the list of the rules. Rules about models and routes
target none of these levels, so what is decided is told by the other rules alone.
-/

namespace RoleAccess

/-- The levels that a method of a module is judged by, from general to special. -/
def moduleLevels (module method : Text) : List Address :=
  [.modules, .module module, .moduleMethod module method]

/-- The decision of rules on a method of a module for some roles. -/
def moduleMeaning (rules : List Rule) (roles : List Text) (module method : Text) : Bool :=
  (lastSaid (lastOpinion rules roles) (moduleLevels module method)).getD true

theorem Rulebook.moduleOpinion_eq_lastSaid (book : Rulebook) (roles : List Text)
    (module method : Text) :
    book.moduleOpinion roles module method =
      lastSaid (book.opinion roles) (moduleLevels module method) := by
  simp only [moduleLevels, lastSaid_cons, moduleOpinion, Option.or_assoc]
  rfl

/-! ## Rules that count for modules -/

namespace Rule

/-- The rule is about modules, or about everything. -/
def CountsForModules (rule : Rule) : Prop := rule.resource = .blanket ∨ rule.resource = .module

instance (rule : Rule) : Decidable rule.CountsForModules := inferInstanceAs (Decidable (_ ∨ _))

/-- No other rule targets one of the levels of a module. -/
theorem countsForModules_of_targets (rule : Rule) (module method : Text) (level : Address)
    (hlevel : level ∈ moduleLevels module method) (targets : rule.Targets level) :
    rule.CountsForModules := by
  simp only [moduleLevels, List.mem_cons, List.not_mem_nil, or_false] at hlevel
  rcases hlevel with rfl | rfl | rfl
  · exact targets.imp_right And.left
  · exact Or.inr targets.1
  · exact Or.inr targets.1

end Rule

/-- Rules that do not target an address can be left out. -/
theorem lastDecision_filter (keep : Rule → Prop) [DecidablePred keep] (rules : List Rule)
    (address : Address) (kept : ∀ rule : Rule, rule.Targets address → keep rule) (role : Text) :
    lastDecision (rules.filter keep) address role = lastDecision rules address role := by
  unfold lastDecision
  rw [← List.filter_reverse, List.find?_filter]
  congr 2
  funext rule
  by_cases targets : rule.Targets address
  · simp [targets, kept rule targets]
  · simp [targets]

/-- Only what is said at the levels themselves matters. -/
theorem lastSaid_congr {opinion opinion' : Address → Option Bool} (levels : List Address)
    (same : ∀ level ∈ levels, opinion level = opinion' level) :
    lastSaid opinion levels = lastSaid opinion' levels := by
  induction levels with
  | nil => rfl
  | cons level rest ih =>
      have first := same level List.mem_cons_self
      have below := ih fun other hother => same other (List.mem_cons_of_mem level hother)
      rw [lastSaid_cons, lastSaid_cons, below, first]

/-- What rules decide on a module is told by the rules that count for modules. -/
theorem moduleMeaning_filter (rules : List Rule) (roles : List Text) (module method : Text) :
    moduleMeaning (rules.filter Rule.CountsForModules) roles module method =
      moduleMeaning rules roles module method := by
  have same : ∀ level ∈ moduleLevels module method,
      lastOpinion (rules.filter Rule.CountsForModules) roles level =
        lastOpinion rules roles level := by
    intro level hlevel
    refine levelOpinion_congr roles fun role => ?_
    exact lastDecision_filter Rule.CountsForModules rules level
      (fun rule => rule.countsForModules_of_targets module method level hlevel) role
  have said := lastSaid_congr (moduleLevels module method) same
  rw [moduleMeaning, said, moduleMeaning]

/-! ## Module requests -/

namespace Rulebook

/-- On an open trail, the rulebook of a list of rules answers as the list means. -/
theorem moduleAnswer_eq_meaning (values : List Value) (rules : List Rule)
    (read : values.map Rule.parse = rules.map .ok)
    (accepted : (enactAll {} values).fault = none) (trail : Trail) (isOpen : trail.IsOpen)
    (roles : List Text) (module method : Text) :
    (enactAll {} values).book.moduleAnswer trail roles module method =
      .ok (moduleMeaning rules roles module method) := by
  have opinion : (enactAll {} values).book.opinion roles = lastOpinion rules roles := by
    funext address
    rw [opinion_enactAll, enacted_of_read values rules read accepted]
  rw [moduleAnswer_eq_opinion _ roles trail isOpen, moduleOpinion_eq_lastSaid, opinion]
  rfl

/-- **The meaning of a module request.** If a list of rules is read without fail and none of
them is rejected, the last decisions of the rules say how a request for a method of a module is
answered. Another list that has the same rules about modules and about everything, in the same
order, is answered alike. -/
theorem moduleAnswer_enactAll (values : List Value) (rules : List Rule)
    (read : values.map Rule.parse = rules.map .ok)
    (accepted : (enactAll {} values).fault = none) (trail : Trail) (isOpen : trail.IsOpen)
    (roles : List Text) (module method : Text) :
    (enactAll {} values).book.moduleAnswer trail roles module method =
        .ok (moduleMeaning rules roles module method) ∧
      ∀ (values' : List Value) (rules' : List Rule), values'.map Rule.parse = rules'.map .ok →
        (enactAll {} values').fault = none →
        rules'.filter Rule.CountsForModules = rules.filter Rule.CountsForModules →
        (enactAll {} values').book.moduleAnswer trail roles module method =
          (enactAll {} values).book.moduleAnswer trail roles module method := by
  have answered := moduleAnswer_eq_meaning values rules read accepted trail isOpen roles module
    method
  refine ⟨answered, ?_⟩
  intro values' rules' read' accepted' alike
  have same : moduleMeaning rules' roles module method =
      moduleMeaning rules roles module method := by
    rw [← moduleMeaning_filter rules', alike, moduleMeaning_filter]
  rw [answered, ← same]
  exact moduleAnswer_eq_meaning values' rules' read' accepted' trail isOpen roles module method

/-- Users get the blog but for deletions, and nothing else; what is said about models and
routes makes no difference. -/
theorem moduleAnswer_enactAll_blog :
    let values := [Value.texts ["all", "*:0"], Value.texts ["user", "model:1"],
      Value.texts ["user", "module:blog:1"], Value.texts ["user", "route:/blog:1"],
      Value.texts ["all", "module:blog:delete:0"]]
    let rules : List Rule :=
      [{ roles := ["all"], resource := .blanket, clauses := [], allow := false },
        { roles := ["user"], resource := .model, clauses := [], allow := true },
        { roles := ["user"], resource := .module, clauses := ["blog"], allow := true },
        { roles := ["user"], resource := .route, clauses := ["/blog"], allow := true },
        { roles := ["all"], resource := .module, clauses := ["blog", "delete"], allow := false }]
    let values' := [Value.texts ["all", "*:0"], Value.texts ["user", "module:blog:1"],
      Value.texts ["all", "module:blog:delete:0"]]
    let rules' := rules.filter Rule.CountsForModules
    let book := (enactAll {} values).book
    values.map Rule.parse = rules.map .ok ∧ (enactAll {} values).fault = none ∧
      values'.map Rule.parse = rules'.map .ok ∧ (enactAll {} values').fault = none ∧
      Trail.off.IsOpen ∧ book.moduleAnswer .off ["user"] "blog" "post" = .ok true ∧
      book.moduleAnswer .off ["user"] "blog" "delete" = .ok false ∧
      book.moduleAnswer .off ["user"] "shop" "post" = .ok false ∧
      (enactAll {} values').book.moduleAnswer .off ["user"] "blog" "delete" = .ok false := by
  intro values rules values' rules' book
  have read : values.map Rule.parse = rules.map .ok := rfl
  have read' : values'.map Rule.parse = rules'.map .ok := rfl
  have alike : rules'.filter Rule.CountsForModules = rules.filter Rule.CountsForModules := rfl
  have law := moduleAnswer_enactAll values rules read rfl .off rfl ["user"]
  have post : book.moduleAnswer .off ["user"] "blog" "post" = .ok true :=
    (law _ _).1.trans (congrArg Except.ok (by decide +kernel))
  have delete : book.moduleAnswer .off ["user"] "blog" "delete" = .ok false :=
    (law _ _).1.trans (congrArg Except.ok (by decide +kernel))
  have shop : book.moduleAnswer .off ["user"] "shop" "post" = .ok false :=
    (law _ _).1.trans (congrArg Except.ok (by decide +kernel))
  have delete' := ((law _ _).2 values' rules' read' rfl alike).trans delete
  exact ⟨read, rfl, read', rfl, rfl, post, delete, shop, delete'⟩

end Rulebook

end RoleAccess
