import RoleAccess.Proofs.Answers
import RoleAccess.Proofs.Notes
import RoleAccess.Proofs.Routes
set_option autoImplicit false

/-! # Audits of modules and routes replay to the decision

A decision about a module or a route is carried along from level to level, and each level that
is consulted makes a note. The two are kept in step: whatever way the walk takes, the decision
is the one of the last note that has one, and allowance if none has (`Trace.Replays`). Model
decisions do not replay like this, for there a deleted state denies without a note.

The notes themselves are told from the decisions that the rulebook holds: one for each level
with decisions, from general to special, and for a route also one for each branch on the way
that has none (`Rulebook.moduleNotes`, `Rulebook.routeNotes`).
-/

namespace RoleAccess

/-! ## Replaying notes -/

/-- The decision that a note has, if it has one. -/
def Note.allow? (note : Note) : Option Bool :=
  match note.find? "allow" with
  | some (.bool allow) => some allow
  | _ => none

/-- The decision of the last note that has one. -/
def lastAllow? (notes : List Note) : Option Bool := notes.reverse.findSome? Note.allow?

/-- What notes replay to: the decision of the last one that has one, and allowance if none has. -/
def replay (notes : List Note) : Bool := (lastAllow? notes).getD true

theorem lastAllow?_append (notes more : List Note) :
    lastAllow? (notes ++ more) = (lastAllow? more).or (lastAllow? notes) := by
  simp [lastAllow?, List.findSome?_append]

/-- The note of a level has the decision of its verdict. -/
theorem Entry.allow?_level (ruleType : Value) (rules more : Table Value) (isMore : IsMore more)
    (verdict : Verdict) :
    Note.allow? (level ruleType rules verdict more).fields = verdict.decision? := by
  rw [fields_level ruleType rules more isMore]
  cases verdict with
  | allowed role => rfl
  | denied => rfl
  | silent =>
      have unsaid : more.find? "allow" = none := by
        refine (Table.find?_eq_none_iff more "allow").mpr fun field mem same => ?_
        exact isMore.new field mem (same ▸ List.mem_cons_self)
      simp [Note.allow?, verdictFields, ruleFields, Table.find?, unsaid, Verdict.decision?]

namespace Trace

/-- A decision that is made from a decision so far replays: it is the one of the last note that
has one, and the decision so far if none has. -/
def Replays (t : Trace Bool) (sofar : Bool) : Prop :=
  ∀ allow, t.result = .ok allow → allow = (lastAllow? t.notes).getD sofar

namespace Replays

protected theorem pure (sofar : Bool) : (pure sofar : Trace Bool).Replays sofar := by
  intro allow result
  exact (Except.ok.inj result).symm

/-- A decision that another one starts from comes before it. -/
protected theorem bind {t : Trace Bool} {f : Bool → Trace Bool} {sofar : Bool}
    (first : t.Replays sofar) (second : ∀ allow, (f allow).Replays allow) :
    (t >>= f).Replays sofar := by
  intro last result
  obtain ⟨allow, started, ended⟩ := (result_andThen_eq_ok_iff t f last).mp result
  have before := first allow started
  have after := second allow last ended
  rw [notes_bind t f allow started, lastAllow?_append, Option.getD_or, ← before]
  exact after

/-- A step that makes no note of a decision can come before. -/
protected theorem after {α : Type} {t : Trace α} {f : α → Trace Bool} {sofar : Bool}
    (undecided : lastAllow? t.notes = none) (second : ∀ a, (f a).Replays sofar) :
    (t >>= f).Replays sofar := by
  intro last result
  obtain ⟨a, started, ended⟩ := (result_andThen_eq_ok_iff t f last).mp result
  rw [notes_bind t f a started, lastAllow?_append, undecided, Option.or_none]
  exact second a last ended

end Replays

end Trace

/-! ## The decisions replay -/

section Walks

variable (roles method : Value)

/-- The note of a consulted level has the decision of the verdict that is found. -/
theorem lastAllow?_consultAllows (ruleType : Text) (more : Table Value) (isMore : IsMore more)
    (allows : Allows) (verdict : Verdict)
    (found : (consultAllows roles ruleType allows more).result = .ok verdict) :
    lastAllow? (consultAllows roles ruleType allows more).notes = verdict.decision? := by
  cases judged : Verdict.judge allows.toFields roles with
  | error misuse =>
      have failed : (consultAllows roles ruleType allows more).result =
          .error (.misuse misuse) := by
        rw [consultAllows, consult, judged]
        rfl
      rw [failed] at found
      cases found
  | ok judgement =>
      have trace : consultAllows roles ruleType allows more =
          { entries := [.level (.str ruleType) allows.toFields judgement more]
            result := .ok judgement } := by
        simp [consultAllows, consult, judged, Trace.done, Trace.note, Trace.andThen]
      rw [trace] at found ⊢
      obtain rfl : judgement = verdict := Except.ok.inj found
      simp [lastAllow?, Entry.allow?_level _ _ more isMore]

theorem replays_applyLevel (ruleType : Text) (more : Table Value) (isMore : IsMore more)
    (allows : Option Allows) (sofar : Bool) :
    (applyLevel roles ruleType allows more sofar).Replays sofar := by
  cases allows with
  | none => exact .pure sofar
  | some allows =>
      intro allow result
      obtain ⟨verdict, found, ended⟩ := (Trace.result_andThen_eq_ok_iff _ _ _).mp result
      have decided := lastAllow?_consultAllows roles ruleType more isMore allows verdict found
      rw [applyLevel, Trace.notes_bind _ _ _ found, Trace.notes_pure, List.append_nil, decided]
      exact (Except.ok.inj ended).symm

theorem isMore_segment (segment : Text) : IsMore [("segment", .str segment)] :=
  ⟨by simp [Table.keys], by simp [levelNames]⟩

theorem replays_visit (branch : RouteBranch) (segment : Text) (sofar : Bool) :
    (branch.visit roles method segment sofar).Replays sofar := by
  unfold RouteBranch.visit
  refine .after rfl fun methodRules => ?_
  split
  · exact .after rfl fun _ => .pure sofar
  · refine .bind (replays_applyLevel roles "path" _ (isMore_segment segment) _ sofar) fun allow => ?_
    exact replays_applyLevel roles "method" _ (isMore_segment segment) methodRules allow

/-- The walk carries the decision from branch to branch, so the induction leaves it open. -/
theorem replays_walk (segments : List Text) (branch : RouteBranch) (sofar : Bool) :
    (branch.walk roles method segments sofar).Replays sofar := by
  induction segments generalizing branch sofar with
  | nil => exact .pure sofar
  | cons segment rest ih =>
      unfold RouteBranch.walk
      split
      · exact .pure sofar
      · next child _ =>
          exact .bind (replays_visit roles method child segment sofar) fun allow => ih child allow

theorem Rulebook.replays_routeDecision (book : Rulebook) (r : RouteRequest) :
    (book.routeDecision roles r).Replays true := by
  unfold routeDecision
  cases book.routes with
  | none => exact .pure true
  | some root =>
      refine .bind (replays_applyLevel roles "global" [] isMore_nil root.allow true) fun allow => ?_
      exact .after rfl fun segments => replays_walk roles r.method segments root allow

theorem Rulebook.replays_moduleDecision (book : Rulebook) (r : ModuleRequest) :
    (book.moduleDecision roles r).Replays true := by
  unfold moduleDecision
  cases book.modules with
  | none => exact .pure true
  | some part =>
      refine .bind (replays_applyLevel roles "global" [] isMore_nil part.allow true) fun allow => ?_
      refine .after rfl fun found => ?_
      cases found with
      | none => exact .pure allow
      | some page =>
          refine .bind (replays_applyLevel roles "module" [] isMore_nil page.allow allow) ?_
          intro next
          exact .after rfl fun methodRules =>
            replays_applyLevel roles "method" [] isMore_nil methodRules next

end Walks

/-! ## The notes that are to be made -/

/-- The paths that come up after `before` on the way down some segments. -/
def pathsBelow (before segments : List Text) : List (List Text) :=
  (List.range segments.length).map fun k => before ++ segments.take (k + 1)

theorem pathsBelow_cons (before : List Text) (segment : Text) (rest : List Text) :
    pathsBelow before (segment :: rest) =
      (before ++ [segment]) :: pathsBelow (before ++ [segment]) rest := by
  simp [pathsBelow, List.range_succ_eq_map]

namespace Rulebook

variable (book : Rulebook) (roles : List Text) (method : Text)

/-- The notes of the decision about a method of a module: one for each of the three levels that
has decisions. -/
def moduleNotes (module method : Text) : List Note :=
  levelNotes roles "global" [] (book.allowsAt .modules) ++
    levelNotes roles "module" [] (book.allowsAt (.module module)) ++
    levelNotes roles "method" [] (book.allowsAt (.moduleMethod module method))

/-- The paths below `before` on the way down some segments, up to the first one without a
branch. -/
def visitedBelow (before segments : List Text) : List (List Text) :=
  (pathsBelow before segments).takeWhile fun path => (book.routeRoot.at? path).isSome

/-- The notes about a path with a branch: those of the path and of the method on it, and one that
says so if there are no decisions about either. -/
def pathNotes (path : List Text) : List Note :=
  let segment : Text × Value := ("segment", .str (path.getLastD ""))
  match book.allowsAt (.route path), book.allowsAt (.routeMethod path method) with
  | none, none => [[("rule_type", .str "none"), segment]]
  | ofPath, ofMethod =>
      levelNotes roles "path" [segment] ofPath ++ levelNotes roles "method" [segment] ofMethod

/-- The notes of the decision about a method on a path. -/
def routeNotes (segments : List Text) : List Note :=
  levelNotes roles "global" [] (book.allowsAt (.route [])) ++
    (book.visitedBelow [] segments).flatMap (book.pathNotes roles method)

/-! ## Modules -/

theorem notes_modulePageDecision (module : Text) (page : ModulePage)
    (found : book.moduleSection.modules.find? module = some page) (sofar : Bool) :
    (page.decision (Value.texts roles) { module := .str module, method := .str method }
        sofar).notes =
      levelNotes roles "module" [] (book.allowsAt (.module module)) ++
        levelNotes roles "method" [] (book.allowsAt (.moduleMethod module method)) := by
  have level := result_applyLevel roles "module" page.allow [] sofar
  have lookup : (Trace.ofUse (page.methods.lookup (.str method))).result =
      .ok (page.methods.find? method) := rfl
  have ofModule : book.allowsAt (.module module) = page.allow := by
    rw [allowsAt, found, Option.bind_some]
  have ofMethod : book.allowsAt (.moduleMethod module method) = page.methods.find? method := by
    rw [allowsAt, found, Option.bind_some]
  rw [ModulePage.decision, Trace.notes_bind _ _ _ level,
    notes_applyLevel roles "module" [] isMore_nil, Trace.notes_bind _ _ _ lookup,
    Trace.notes_ofUse, List.nil_append, notes_applyLevel roles "method" [] isMore_nil, ofModule,
    ofMethod]

theorem notes_moduleDecision (module : Text) :
    (book.moduleDecision (Value.texts roles)
        { module := .str module, method := .str method }).notes =
      book.moduleNotes roles module method := by
  have global := result_applyLevel roles "global" book.moduleSection.allow [] true
  have lookup : (Trace.ofUse (book.moduleSection.modules.lookup (.str module))).result =
      .ok (book.moduleSection.modules.find? module) := rfl
  rw [moduleDecision_str, ModuleSection.decision, Trace.notes_bind _ _ _ global,
    notes_applyLevel roles "global" [] isMore_nil, Trace.notes_bind _ _ _ lookup,
    Trace.notes_ofUse, List.nil_append, moduleNotes, List.append_assoc]
  cases found : book.moduleSection.modules.find? module with
  | none =>
      -- where there is no page there are no decisions
      simp [allowsAt, found, levelNotes]
  | some page =>
      exact congrArg _ (book.notes_modulePageDecision roles method module page found _)

/-! ## Routes -/

theorem notes_visit (path : List Text) (segment : Text) (branch : RouteBranch) (sofar : Bool)
    (found : book.routeRoot.at? (path ++ [segment]) = some branch) :
    (branch.visit (Value.texts roles) (.str method) segment sofar).notes =
      book.pathNotes roles method (path ++ [segment]) := by
  obtain ⟨ofPath, ofMethod⟩ := book.allowsAt_of_branch method _ branch found
  have lookup : (Trace.ofUse (branch.methods.lookup (.str method))).result =
      .ok (branch.methods.find? method) := rfl
  have level := result_applyLevel roles "path" branch.allow [("segment", .str segment)] sofar
  have pathNote := notes_applyLevel roles "path" _ (isMore_segment segment)
  have methodNote := notes_applyLevel roles "method" _ (isMore_segment segment)
  have last : (path ++ [segment]).getLastD "" = segment := by simp
  rw [RouteBranch.visit, Trace.notes_bind _ _ _ lookup, Trace.notes_ofUse, List.nil_append,
    pathNotes, ofPath, ofMethod, last]
  cases onPath : branch.allow with
  | none =>
      cases onMethod : branch.methods.find? method with
      | none => rfl
      | some allows => exact methodNote (some allows) sofar
  | some allows =>
      rw [onPath] at level
      show (applyLevel (Value.texts roles) "path" (some allows) [("segment", .str segment)] sofar >>=
        fun allow => applyLevel (Value.texts roles) "method" (branch.methods.find? method)
          [("segment", .str segment)] allow).notes = _
      rw [Trace.notes_bind _ _ _ level, pathNote, methodNote]

theorem visitedBelow_cons (before : List Text) (segment : Text) (rest : List Text) :
    book.visitedBelow before (segment :: rest) =
      if (book.routeRoot.at? (before ++ [segment])).isSome then
        (before ++ [segment]) :: book.visitedBelow (before ++ [segment]) rest
      else [] := by
  rw [visitedBelow, pathsBelow_cons, List.takeWhile_cons]
  rfl

/-- The walk from a branch on makes the notes of the paths that it visits. -/
theorem notes_walk (before segments : List Text) (branch : RouteBranch) (sofar : Bool)
    (found : book.routeRoot.at? before = some branch) :
    (branch.walk (Value.texts roles) (.str method) segments sofar).notes =
      (book.visitedBelow before segments).flatMap (book.pathNotes roles method) := by
  -- the walk moves on to another branch, so the induction is over any path walked before
  induction segments generalizing before branch sofar with
  | nil => rfl
  | cons segment rest ih =>
      have next : book.routeRoot.at? (before ++ [segment]) =
          Table.find? segment branch.paths := by
        rw [RouteBranch.at?_concat, found, Option.bind_some]
      rw [visitedBelow_cons, next]
      cases hchild : Table.find? segment branch.paths with
      | none => simp [RouteBranch.walk, hchild]
      | some child =>
          rw [hchild] at next
          have visited := book.result_visit roles method _ child segment sofar next
          simp only [RouteBranch.walk, hchild]
          rw [Trace.notes_bind _ _ _ visited, notes_visit _ _ _ _ _ _ _ next, ih _ child _ next]
          rfl

theorem notes_routeDecision (path : Text) :
    (book.routeDecision (Value.texts roles) { path := .str path, method := .str method }).notes =
      book.routeNotes roles method (Path.segments path) := by
  have global := result_applyLevel roles "global" book.routeRoot.allow [] true
  have globalNotes := notes_applyLevel roles "global" [] isMore_nil book.routeRoot.allow true
  have walk := book.notes_walk roles method [] (Path.segments path) book.routeRoot
    ((book.routeRoot.allow.bind (Allows.opinion roles)).getD true) rfl
  rw [routeDecision_str, Trace.notes_bind _ _ _ global, globalNotes, walk]
  rfl

/-- **Audits of modules and routes replay to the decision.** An open record that takes a decision
about a method of a module, or about a method on a path, takes the notes that are to be made, and
what is decided is what these replay to. -/
theorem takesNotes_replay (record : Record) (isOpen : record.complete = false) :
    (∀ module method, record.TakesNotes (book.moduleNotes roles module method)
      (replay (book.moduleNotes roles module method))
      (book.decideModule (.kept record) (Value.texts roles)
        { module := .str module, method := .str method })) ∧
    ∀ path method, record.TakesNotes (book.routeNotes roles method (Path.segments path))
      (replay (book.routeNotes roles method (Path.segments path)))
      (book.decideRoute (.kept record) (Value.texts roles)
        { path := .str path, method := .str method }) := by
  constructor
  · intro module method
    have result := book.result_moduleDecision roles module method
    have settled := record.takesNotes_settle isOpen _ _ result
    rw [book.replays_moduleDecision _ _ _ result, notes_moduleDecision] at settled
    exact settled
  · intro path method
    have result := book.result_routeDecision roles method path
    have settled := record.takesNotes_settle isOpen _ _ result
    rw [book.replays_routeDecision _ _ _ result, notes_routeDecision] at settled
    exact settled

/-- Users may run the blog, and get what is below `/foo`. Nobody posts to `/foo/bar/x`, or to any
path below it, for which there is no branch; and there is one for `/foo/bar` with no decisions. -/
theorem takesNotes_replay_below_foo :
    let book := (enactAll {} [Value.texts ["all", "*:0"], Value.texts ["user", "module:blog:1"],
      Value.texts ["user", "route:/foo:1"], Value.texts ["all", "route:/foo/bar/x:post:0"]]).book
    let record (kind : CheckKind) : Record := { id := .str "id", kind, args := [] }
    let denied (ruleType : Text) : Note :=
      [("allow", .bool false), ("role", .str "all"), ("rule_type", .str ruleType),
        ("rules", .obj [("all", .bool false)])]
    let allowed (ruleType : Text) : Note :=
      [("allow", .bool true), ("role", .str "user"), ("rule_type", .str ruleType),
        ("rules", .obj [("user", .bool true)])]
    let segment (name : Text) : Note := [("segment", .str name)]
    (record .module).complete = false ∧ (record .route).complete = false ∧
      (record .module).TakesNotes [denied "global", allowed "module"] true
        (book.decideModule (.kept (record .module)) (Value.texts ["user"])
          { module := .str "blog", method := .str "run" }) ∧
      (record .route).TakesNotes
        [denied "global", allowed "path" ++ segment "foo",
          [("rule_type", .str "none"), ("segment", .str "bar")],
          denied "method" ++ segment "x"] false
        (book.decideRoute (.kept (record .route)) (Value.texts ["user"])
          { path := .str "/foo/bar/x/y", method := .str "post" }) := by
  intro book record denied allowed segment
  have module := (book.takesNotes_replay ["user"] (record .module) rfl).1 "blog" "run"
  have route := (book.takesNotes_replay ["user"] (record .route) rfl).2 "/foo/bar/x/y" "post"
  exact ⟨rfl, rfl, module, route⟩

end Rulebook

end RoleAccess
