import RoleAccess.Decision.Route
import RoleAccess.Proofs.Compilation
import RoleAccess.Proofs.Inquiry
import RoleAccess.Proofs.Reading
set_option autoImplicit false

/-! # The meaning of route requests

A path is judged by the level of all routes and then, segment by segment, by the level of
the path so far and that of the method on it; the last level that has something to say
decides (`routeMeaning`). The walk down the branches comes to the same, although it stops at
the first segment without a branch: where there is no branch there are no decisions below,
and every rule about routes has made the branches that lead to it.
-/

namespace RoleAccess

/-! ## The levels of a path -/

/-- The levels that come up after `before` on the way down some segments: the path after each
of them, followed by the method on it. -/
def levelsBelow (method : Text) (before segments : List Text) : List Address :=
  (List.range segments.length).flatMap fun k =>
    [.route (before ++ segments.take (k + 1)), .routeMethod (before ++ segments.take (k + 1)) method]

/-- The levels that a path and a method are judged by, from general to special. -/
def routeLevels (method : Text) (segments : List Text) : List Address :=
  .route [] :: levelsBelow method [] segments

/-- What the last level says that says something. -/
def lastSaid (opinion : Address → Option Bool) (levels : List Address) : Option Bool :=
  levels.reverse.findSome? opinion

/-- The decision of rules on a path and a method for some roles. -/
def routeMeaning (rules : List Rule) (roles : List Text) (method : Text)
    (segments : List Text) : Bool :=
  (lastSaid (lastOpinion rules roles) (routeLevels method segments)).getD true

theorem levelsBelow_cons (method segment : Text) (before rest : List Text) :
    levelsBelow method before (segment :: rest) =
      .route (before ++ [segment]) :: .routeMethod (before ++ [segment]) method ::
        levelsBelow method (before ++ [segment]) rest := by
  simp [levelsBelow, List.range_succ_eq_map, List.flatMap_map]

/-- Each of these levels is at a path that starts with `before` and goes on. -/
theorem mem_levelsBelow (method : Text) (before segments : List Text) (level : Address)
    (h : level ∈ levelsBelow method before segments) :
    ∃ rest, level = .route (before ++ rest) ∨ level = .routeMethod (before ++ rest) method := by
  obtain ⟨k, -, hlevel⟩ := List.mem_flatMap.mp h
  refine ⟨segments.take (k + 1), ?_⟩
  simpa using hlevel

theorem lastSaid_cons (opinion : Address → Option Bool) (level : Address)
    (rest : List Address) :
    lastSaid opinion (level :: rest) = (lastSaid opinion rest).or (opinion level) := by
  simp [lastSaid, List.findSome?_append]

theorem lastSaid_eq_none_iff (opinion : Address → Option Bool) (levels : List Address) :
    lastSaid opinion levels = none ↔ ∀ level ∈ levels, opinion level = none := by
  simp [lastSaid]

/-! ## Branches on the way -/

theorem RouteBranch.at?_append (branch : RouteBranch) (path rest : List Text) :
    branch.at? (path ++ rest) = (branch.at? path).bind (at? rest) := by
  induction path generalizing branch with
  | nil => rfl
  | cons segment others ih =>
      rw [List.cons_append, at?_cons, at?_cons]
      cases Table.find? segment branch.paths with
      | none => rfl
      | some child => rw [Option.bind_some, Option.bind_some, ih]

/-- The last step on the way to a branch. -/
theorem RouteBranch.at?_concat (branch : RouteBranch) (path : List Text) (segment : Text) :
    branch.at? (path ++ [segment]) =
      (branch.at? path).bind fun last => Table.find? segment last.paths := by
  rw [at?_append]
  congr 1
  funext last
  rw [at?_cons]
  cases Table.find? segment last.paths <;> rfl

namespace Rulebook

variable (book : Rulebook) (roles : List Text) (method : Text)

/-- Where there is a branch, it has the decisions about its path. -/
theorem allowsAt_of_branch (path : List Text) (branch : RouteBranch)
    (found : book.routeRoot.at? path = some branch) :
    book.allowsAt (.route path) = branch.allow ∧
      book.allowsAt (.routeMethod path method) = branch.methods.find? method := by
  rw [allowsAt, allowsAt, found, Option.bind_some, Option.bind_some]
  exact ⟨rfl, rfl⟩

/-- Where there is no branch, nothing is said about a path, nor about any below it. -/
theorem allowsAt_of_no_branch (path rest : List Text) (h : book.routeRoot.at? path = none) :
    book.allowsAt (.route (path ++ rest)) = none ∧
      book.allowsAt (.routeMethod (path ++ rest) method) = none := by
  have below : book.routeRoot.at? (path ++ rest) = none := by
    rw [RouteBranch.at?_append, h, Option.bind_none]
  simp [allowsAt, below]

theorem opinion_of_no_branch (path rest : List Text) (h : book.routeRoot.at? path = none) :
    book.opinion roles (.route (path ++ rest)) = none ∧
      book.opinion roles (.routeMethod (path ++ rest) method) = none := by
  obtain ⟨ofPath, ofMethod⟩ := book.allowsAt_of_no_branch method path rest h
  rw [opinion_eq_bind, opinion_eq_bind, ofPath, ofMethod]
  exact ⟨rfl, rfl⟩

theorem lastSaid_of_no_branch (before segments : List Text)
    (h : book.routeRoot.at? before = none) :
    lastSaid (book.opinion roles) (levelsBelow method before segments) = none := by
  rw [lastSaid_eq_none_iff]
  intro level hlevel
  obtain ⟨rest, rfl | rfl⟩ := mem_levelsBelow method before segments level hlevel
  · exact (book.opinion_of_no_branch roles method before rest h).1
  · exact (book.opinion_of_no_branch roles method before rest h).2

/-! ## The walk -/

/-- A visit of a branch: what is said about the method on the path comes before what is said
about the path. -/
theorem result_visit (path : List Text) (branch : RouteBranch) (segment : Text) (sofar : Bool)
    (found : book.routeRoot.at? path = some branch) :
    (branch.visit (Value.texts roles) (.str method) segment sofar).result =
      .ok (((book.opinion roles (.routeMethod path method)).or
        (book.opinion roles (.route path))).getD sofar) := by
  obtain ⟨ofPath, ofMethod⟩ := book.allowsAt_of_branch method path branch found
  have lookup : (Trace.ofUse (branch.methods.lookup (.str method))).result =
      .ok (branch.methods.find? method) := rfl
  rw [opinion_eq_bind, opinion_eq_bind, ofPath, ofMethod, RouteBranch.visit, Trace.bind_eq,
    Trace.result_andThen_ok _ _ _ lookup]
  by_cases unruled : branch.allow.isNone && (branch.methods.find? method).isNone
  · obtain ⟨noPath, noMethod⟩ := Bool.and_eq_true_iff.mp unruled
    rw [Option.isNone_iff_eq_none] at noPath noMethod
    simp [noPath, noMethod, Trace.note, Trace.andThen]
  · have first := result_applyLevel roles "path" branch.allow [("segment", .str segment)] sofar
    rw [if_neg unruled, Trace.bind_eq, Trace.result_andThen_ok _ _ _ first, result_applyLevel,
      Option.getD_or]

/-- The walk from a branch on comes to what the last of the levels below says. -/
theorem result_walk (before segments : List Text) (branch : RouteBranch) (sofar : Bool)
    (found : book.routeRoot.at? before = some branch) :
    (branch.walk (Value.texts roles) (.str method) segments sofar).result =
      .ok ((lastSaid (book.opinion roles) (levelsBelow method before segments)).getD sofar) := by
  -- the walk moves on to another branch, so the induction is over any path walked before
  induction segments generalizing before branch sofar with
  | nil => rfl
  | cons segment rest ih =>
      have next : book.routeRoot.at? (before ++ [segment]) =
          Table.find? segment branch.paths := by
        rw [RouteBranch.at?_concat, found, Option.bind_some]
      rw [levelsBelow_cons, lastSaid_cons, lastSaid_cons]
      cases hchild : Table.find? segment branch.paths with
      | none =>
          rw [hchild] at next
          -- the walk stops, and the levels that it passes by say nothing
          obtain ⟨ofPath, ofMethod⟩ := book.opinion_of_no_branch roles method _ [] next
          rw [List.append_nil] at ofPath ofMethod
          rw [book.lastSaid_of_no_branch roles method _ rest next, ofPath, ofMethod]
          simp only [RouteBranch.walk, hchild]
          rfl
      | some child =>
          rw [hchild] at next
          have visited := book.result_visit roles method _ child segment sofar next
          simp only [RouteBranch.walk, hchild]
          rw [Trace.bind_eq, Trace.result_andThen_ok _ _ _ visited, ih _ child _ next,
            Option.or_assoc, ← Option.getD_or]

/-- The level of all routes comes first, and the walk from the root on after it. -/
theorem routeDecision_str (asking : Value) (path : Text) :
    book.routeDecision asking { path := .str path, method := .str method } =
      (applyLevel asking "global" book.routeRoot.allow [] true >>= fun allow =>
        book.routeRoot.walk asking (.str method) (Path.segments path) allow) := by
  cases hroutes : book.routes with
  | none =>
      -- no tree comes to as much as an empty one
      have empty : book.routeRoot = {} := by rw [routeRoot, hroutes, Option.getD_none]
      rw [empty, routeDecision, hroutes]
      cases Path.segments path <;> rfl
  | some root =>
      have found : book.routeRoot = root := by rw [routeRoot, hroutes, Option.getD_some]
      have asked : pathSegments (.str path) = .ok (Path.segments path) := rfl
      rw [found, routeDecision, hroutes]
      simp only [asked]
      rfl

/-- The walk from the level of all routes on. -/
theorem result_routeDecision (path : Text) :
    (book.routeDecision (Value.texts roles) { path := .str path, method := .str method }).result =
      .ok ((lastSaid (book.opinion roles) (routeLevels method (Path.segments path))).getD true) := by
  have all : book.opinion roles (.route []) =
      book.routeRoot.allow.bind (Allows.opinion roles) := by
    rw [opinion_eq_bind]
    rfl
  have global := result_applyLevel roles "global" book.routeRoot.allow [] true
  have walk := book.result_walk roles method [] (Path.segments path) book.routeRoot
    ((book.routeRoot.allow.bind (Allows.opinion roles)).getD true) rfl
  rw [routeDecision_str, Trace.bind_eq, Trace.result_andThen_ok _ _ _ global, walk, routeLevels,
    lastSaid_cons, Option.getD_or, all]

/-! ## Rules about routes -/

/-- The answer to a route request for a path and a method. -/
def routeAnswer (book : Rulebook) (trail : Trail) (roles : List Text) (path method : Text) :
    Except Failure Bool :=
  (book.decideRoute trail (Value.texts roles) { path := .str path, method := .str method }).2

/-- On an open trail, a route request is answered by the last level that says something. -/
theorem routeAnswer_eq_lastSaid (trail : Trail) (isOpen : trail.IsOpen) (path method : Text) :
    book.routeAnswer trail roles path method =
      .ok ((lastSaid (book.opinion roles) (routeLevels method (Path.segments path))).getD true) :=
  trail.settle_of_isOpen isOpen _ _ (book.result_routeDecision roles method path)

/-- Where there are no decisions, no rule gives one. -/
theorem not_targets_of_allowsAt (values : List Value) (rules : List Rule)
    (read : values.map Rule.parse = rules.map .ok)
    (accepted : (enactAll {} values).fault = none) (address : Address)
    (nothing : (enactAll {} values).book.allowsAt address = none) (rule : Rule)
    (hrule : rule ∈ rules) : ¬rule.Targets address := by
  intro targets
  -- a rule names somebody, for whom there would be a decision
  obtain ⟨value, -, hvalue⟩ := List.mem_map.mp (read ▸ List.mem_map_of_mem hrule)
  obtain ⟨role, hrole⟩ :=
    List.exists_mem_of_ne_nil _ (Rule.isWritable_of_parse value rule hvalue).some_role
  have undecided : lastDecision rules address role = none := by
    rw [← enacted_of_read values rules read accepted, ← decisionAt_enactAll, decisionAt, nothing,
      Option.bind_none]
  exact (lastDecision_eq_none_iff rules address role).mp undecided rule hrule ⟨targets, hrole⟩

/-- **The meaning of a route request.** If a list of rules is read without fail and none of
them is rejected, the last decisions of the rules say how a request for a path and a method is
answered. Where there is no branch, no rule is about the path or any path below it. -/
theorem routeAnswer_enactAll (values : List Value) (rules : List Rule)
    (read : values.map Rule.parse = rules.map .ok)
    (accepted : (enactAll {} values).fault = none) (trail : Trail) (isOpen : trail.IsOpen)
    (roles : List Text) (path method : Text) :
    let book := (enactAll {} values).book
    book.routeAnswer trail roles path method =
        .ok (routeMeaning rules roles method (Path.segments path)) ∧
      ∀ before rest, book.routeRoot.at? before = none → ∀ rule ∈ rules,
        ¬rule.Targets (.route (before ++ rest)) ∧
          ∀ method, ¬rule.Targets (.routeMethod (before ++ rest) method) := by
  intro book
  constructor
  · have opinion : book.opinion roles = lastOpinion rules roles := by
      funext address
      rw [opinion_enactAll, enacted_of_read values rules read accepted]
    have result := book.result_routeDecision roles method path
    rw [opinion] at result
    exact trail.settle_of_isOpen isOpen _ _ result
  · intro before rest none rule hrule
    have untargeted := fun address nothing =>
      not_targets_of_allowsAt values rules read accepted address nothing rule hrule
    constructor
    · exact untargeted _ (book.allowsAt_of_no_branch method before rest none).1
    · intro other
      exact untargeted _ (book.allowsAt_of_no_branch other before rest none).2

/-- Users get what is below `/foo`, where nobody posts, and nothing else. -/
theorem routeAnswer_enactAll_below_foo :
    let values := [Value.texts ["all", "route:0"], Value.texts ["user", "route:/foo:1"],
      Value.texts ["all", "route:/foo:post:0"]]
    let rules : List Rule :=
      [{ roles := ["all"], resource := .route, clauses := [], allow := false },
        { roles := ["user"], resource := .route, clauses := ["/foo"], allow := true },
        { roles := ["all"], resource := .route, clauses := ["/foo", "post"], allow := false }]
    let book := (enactAll {} values).book
    values.map Rule.parse = rules.map .ok ∧ (enactAll {} values).fault = none ∧
      Trail.off.IsOpen ∧ book.routeAnswer .off ["user"] "/foo/bar/" "get" = .ok true ∧
      book.routeAnswer .off ["user"] "foo/bar" "post" = .ok false ∧
      book.routeAnswer .off ["user"] "//foo" "get" = .ok false := by
  intro values rules book
  have read : values.map Rule.parse = rules.map .ok := rfl
  have law := fun path method =>
    (routeAnswer_enactAll values rules read rfl .off rfl ["user"] path method).1
  refine ⟨read, rfl, rfl, (law _ _).trans ?_, (law _ _).trans ?_, (law _ _).trans ?_⟩
  all_goals exact congrArg Except.ok (by decide +kernel)

end Rulebook

end RoleAccess
