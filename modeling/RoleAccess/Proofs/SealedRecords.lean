import RoleAccess.Proofs.TypedQueries
set_option autoImplicit false

/-! # Nothing is ruled without a record

A query can be ruled on along a record of any kind and in any state. A complete record
refuses the first change, so nothing is ruled and it stays as it is. An open one takes the
entries, behind those that it holds already, and the decision, which is the one that is made
without a record. A query for the widest scope makes up to two decisions and needs a record
that stays open for the scope after them: on a record of any other kind, the first decision
is the last change, and what comes next is refused.
-/

namespace RoleAccess

/-! ## Complete records -/

/-- The answer is that the record is complete. -/
def IsRefused {α : Type} (answer : Except Failure α) : Prop :=
  ∃ e, answer = .error e ∧ e.report?.map ErrorReport.cls = some .invalidAuditState

/-- What is answered is not refused. -/
theorem not_isRefused_ok {α : Type} (a : α) : ¬IsRefused (.ok a : Except Failure α) := by
  rintro ⟨e, answered, -⟩
  cases answered

theorem isRefused_audit {α : Type} (fault : AuditFault) :
    IsRefused (.error (.audit fault) : Except Failure α) :=
  ⟨_, rfl, rfl⟩

theorem IsRefused.map {α β : Type} {answer : Except Failure α} (refused : IsRefused answer)
    (f : α → β) : IsRefused (answer.map f) := by
  obtain ⟨e, rfl, complete⟩ := refused
  exact ⟨e, rfl, complete⟩

/-- How a complete record refuses a change. -/
def Record.refusal (record : Record) (change : AuditChange) : Failure :=
  .audit { change, kind := record.kind, id := record.id }

namespace Trail

variable (record : Record) (complete : record.complete = true)

include complete

/-- A complete record refuses the first change that a decision makes: its first entry, if it
makes one. -/
theorem settle_complete (t : Trace Bool) (allow : Bool) (result : t.result = .ok allow) :
    (kept record).settle t =
      (.kept record, .error (record.refusal (if t.entries = [] then .decision else .entry))) := by
  obtain ⟨entries, _⟩ := t
  cases result
  cases entries with
  | nil =>
      simp [settle, run, addEntries, change, Record.addEntries, Except.map, setDecision,
        Record.setDecision, Record.requireOpen, complete, Record.refusal]
  | cons entry rest =>
      simp [settle, run, addEntries, change, Record.addEntries, Except.map, Record.addEntry,
        Record.requireOpen, complete, Record.refusal]

theorem settleScope_complete (scope : Option Scope) :
    (kept record).settleScope scope = (.kept record, .error (record.refusal .scope)) := by
  simp [settleScope, setScope, change, Record.setScope, Record.requireOpen, complete, Except.map,
    Record.refusal]

end Trail

/-! ## One decision -/

/-- What a record makes of a decision, which is `unaudited` without a record: it refuses
exactly if it is complete, and then nothing changes, or it takes the decision. -/
structure Record.TakesDecision (record : Record) (unaudited : Except Failure Ruling)
    (ruled : Trail × Except Failure Ruling) : Prop where
  refused_iff : IsRefused ruled.2 ↔ record.complete = true
  unchanged : record.complete = true → ruled.1 = .kept record
  decided : record.complete = false → ∃ entries allow, unaudited = .ok (.decision allow) ∧
    ruled = (.kept (record.decided entries allow), .ok (.decision allow))

/-- Every record takes a decision that is made, or refuses it. -/
theorem Record.takesDecision_settle (record : Record) (t : Trace Bool) (allow : Bool)
    (result : t.result = .ok allow) :
    record.TakesDecision ((Trail.off.settle t).2.map .decision)
      (((Trail.kept record).settle t).1, ((Trail.kept record).settle t).2.map .decision) := by
  constructor
  case refused_iff =>
    cases state : record.complete with
    | true =>
        rw [Trail.settle_complete record state t allow result]
        exact ⟨fun _ => rfl, fun _ => isRefused_audit _⟩
    | false =>
        rw [Trail.settle_kept record state t allow result]
        exact ⟨fun refused => absurd refused (not_isRefused_ok _), nofun⟩
  case unchanged =>
    intro complete
    rw [Trail.settle_complete record complete t allow result]
  case decided =>
    intro isOpen
    refine ⟨t.entries, allow, ?_, ?_⟩
    · rw [Trail.off.settle_of_isOpen rfl t allow result]
      rfl
    · rw [Trail.settle_kept record isOpen t allow result]
      rfl

/-! ## The widest scope -/

/-- What a record makes of a query for the widest scope, which is answered with `unaudited`
without a record: only an open one for such queries takes the scope, and any other refuses. -/
structure Record.TakesWidest (record : Record) (unaudited : Except Failure Ruling)
    (ruled : Trail × Except Failure Ruling) : Prop where
  refused : ¬(record.kind = .modelScope ∧ record.complete = false) → IsRefused ruled.2
  unchanged : record.complete = true → ruled.1 = .kept record
  taken : record.kind = .modelScope → record.complete = false →
    ∃ entries scope, unaudited = .ok (.widest scope) ∧
      ruled = (.kept ((record.decided entries scope.isSome).scoped scope), .ok (.widest scope))

theorem Record.decided_decided (record : Record) (entries more : List Entry)
    (allow last : Bool) :
    (record.decided entries allow).decided more last = record.decided (entries ++ more) last := by
  simp [decided]

/-- A decision completes every record but one for the widest scope. -/
theorem Record.complete_decided (record : Record) (entries : List Entry) (allow : Bool) :
    (record.decided entries allow).complete = decide (record.kind ≠ .modelScope) := rfl

namespace Rulebook

variable (book : Rulebook) (ownership : Ownership) (roles : Value) (r : ModelRequest)

/-- The decisions in the two scopes, any records first, as one computation of the widest
scope. -/
def widestTrace : Trace (Option Scope) := do
  if ← book.modelDecision ownership roles (r.inScope .any) then return some .any
  else if ← book.modelDecision ownership roles (r.inScope .own) then return some .own
  else return none

variable {book ownership roles r}

/-- A decision that allows any records is the only one. -/
theorem widestTrace_of_any {t : Trace Bool}
    (first : book.modelDecision ownership roles (r.inScope .any) = t)
    (allowed : t.result = .ok true) :
    book.widestTrace ownership roles r = { entries := t.entries, result := .ok (some .any) } := by
  simp [widestTrace, first, Trace.andThen, allowed]

/-- Where any records are denied, the decision about own ones comes last. -/
theorem widestTrace_of_own {t u : Trace Bool} {allow : Bool}
    (first : book.modelDecision ownership roles (r.inScope .any) = t)
    (denied : t.result = .ok false)
    (second : book.modelDecision ownership roles (r.inScope .own) = u)
    (decided : u.result = .ok allow) :
    book.widestTrace ownership roles r =
      { entries := t.entries ++ u.entries
        result := .ok (if allow then some .own else none) } := by
  cases allow <;> simp [widestTrace, first, second, Trace.andThen, denied, decided]

variable (book ownership roles r)

/-- What the two decisions come to is what is ruled. -/
theorem result_widestTrace :
    (book.widestTrace ownership roles r).result = book.widestRuling roles ownership r := by
  unfold widestRuling
  rcases first : book.modelDecision ownership roles (r.inScope .any) with
    ⟨entries, e | _ | _⟩
  · simp [widestTrace, first, Trace.andThen]
  · rcases second : book.modelDecision ownership roles (r.inScope .own) with
      ⟨more, e | allow⟩
    · simp [widestTrace, first, second, Trace.andThen, Except.map]
    · rw [widestTrace_of_own first rfl second rfl]
      rfl
  · rw [widestTrace_of_any first rfl]

/-- An open record for the widest scope takes both decisions and the scope. -/
theorem widestScope_kept (record : Record) (kind : record.kind = .modelScope)
    (isOpen : record.complete = false) (scope : Option Scope)
    (ruled : book.widestRuling roles ownership r = .ok scope) :
    book.widestScope ownership (.kept record) roles r =
      (.kept ((record.decided (book.widestTrace ownership roles r).entries scope.isSome).scoped
        scope), .ok scope) := by
  -- no decision completes the record
  have open_decided (entries : List Entry) (allow : Bool) :
      (record.decided entries allow).complete = false := by
    rw [Record.complete_decided, kind]
    rfl
  rw [← result_widestTrace] at ruled
  unfold widestScope decideModel
  rcases first : book.modelDecision ownership roles (r.inScope .any) with
    ⟨entries, e | _ | _⟩
  · simp [widestTrace, first, Trace.andThen] at ruled
  · rw [Trail.settle_kept record isOpen _ false rfl]
    rcases second : book.modelDecision ownership roles (r.inScope .own) with
      ⟨more, e | allow⟩
    · simp [widestTrace, first, second, Trace.andThen] at ruled
    · rw [widestTrace_of_own first rfl second rfl] at ruled ⊢
      obtain rfl := Except.ok.inj ruled
      have settled := Trail.settle_kept (record.decided entries false) (open_decided entries false)
        { entries := more, result := .ok allow } allow rfl
      simp only [settled, Record.decided_decided]
      cases allow <;> exact Trail.settleScope_kept _ (open_decided _ _) _
  · rw [widestTrace_of_any first rfl] at ruled ⊢
    obtain rfl := Except.ok.inj ruled
    rw [Trail.settle_kept record isOpen _ true rfl]
    exact Trail.settleScope_kept _ (open_decided _ _) _

/-- A complete record refuses the first decision already. -/
theorem widestScope_complete (record : Record) (complete : record.complete = true) (allow : Bool)
    (first : (book.modelDecision ownership roles (r.inScope .any)).result = .ok allow) :
    ∃ change, book.widestScope ownership (.kept record) roles r =
      (.kept record, .error (record.refusal change)) := by
  unfold widestScope decideModel
  rw [Trail.settle_complete record complete _ allow first]
  exact ⟨_, rfl⟩

/-- An open record of another kind refuses what comes after the first decision. -/
theorem isRefused_widestScope (record : Record) (kind : record.kind ≠ .modelScope)
    (isOpen : record.complete = false) (allow allowOwn : Bool)
    (first : (book.modelDecision ownership roles (r.inScope .any)).result = .ok allow)
    (second : (book.modelDecision ownership roles (r.inScope .own)).result = .ok allowOwn) :
    IsRefused (book.widestScope ownership (.kept record) roles r).2 := by
  have complete (entries : List Entry) : (record.decided entries allow).complete = true := by
    rw [Record.complete_decided, decide_eq_true kind]
  unfold widestScope decideModel
  rw [Trail.settle_kept record isOpen _ allow first]
  cases allow with
  | true =>
      simp only [Trail.settleScope_complete _ (complete _)]
      exact isRefused_audit _
  | false =>
      simp only [Trail.settle_complete _ (complete _) _ allowOwn second]
      exact isRefused_audit _

/-- A query of the right types is ruled on along a record that takes the widest scope. -/
theorem takesWidest_rule (names : OwnerNames) (roles : List Text)
    (typed : (Query.modelScope r).IsTyped) (record : Record) :
    record.TakesWidest (book.rule names.ownership .off (Value.texts roles) (.modelScope r)).2
      (book.rule names.ownership (.kept record) (Value.texts roles) (.modelScope r)) := by
  have both := ModelRequest.IsTyped.inScope typed
  obtain ⟨allow, first⟩ := (both .any).exists_decision book names roles
  obtain ⟨allowOwn, second⟩ := (both .own).exists_decision book names roles
  constructor
  case refused =>
    intro other
    refine IsRefused.map ?_ _
    cases state : record.complete with
    | true =>
        obtain ⟨change, refused⟩ := book.widestScope_complete _ _ r record state allow first
        rw [refused]
        exact isRefused_audit _
    | false =>
        have kind : record.kind ≠ .modelScope := fun kind => other ⟨kind, state⟩
        exact book.isRefused_widestScope _ _ r record kind state allow allowOwn first second
  case unchanged =>
    intro complete
    obtain ⟨change, refused⟩ := book.widestScope_complete _ _ r record complete allow first
    exact congrArg Prod.fst refused
  case taken =>
    intro kind isOpen
    obtain ⟨ruling, ruled⟩ := book.exists_ruling (.modelScope r) typed names roles
    obtain ⟨scope, widest, rfl⟩ := (map_eq_ok_iff _ _ _).mp ruled
    refine ⟨(book.widestTrace names.ownership (Value.texts roles) r).entries, scope, ?_, ?_⟩
    · exact (book.snd_rule _ _ (.modelScope r) (Trail.takes_off _)).trans ruled
    · rw [rule, book.widestScope_kept _ _ r record kind isOpen scope widest]
      rfl

/-- **Nothing is ruled without a record.** A query of the right types that is ruled on along a
record, of whatever kind and in whatever state, is refused or recorded. A complete record
refuses every query and stays as it is. An open one takes what is ruled without a record, and
keeps what it holds; only the widest scope is refused by one that is for something else. -/
theorem rule_onRecord (query : Query) (typed : query.IsTyped) (names : OwnerNames)
    (roles : List Text) (record : Record) :
    let unaudited := (book.rule names.ownership .off (Value.texts roles) query).2
    let ruled := book.rule names.ownership (.kept record) (Value.texts roles) query
    (query.kind ≠ .modelScope → record.TakesDecision unaudited ruled) ∧
      (query.kind = .modelScope → record.TakesWidest unaudited ruled) := by
  intro unaudited ruled
  cases query with
  | model r =>
      obtain ⟨allow, decided⟩ := ModelRequest.IsTyped.exists_decision typed book names roles
      exact ⟨fun _ => record.takesDecision_settle _ allow decided, nofun⟩
  | modelScope r =>
      refine ⟨fun other => absurd rfl other, fun _ => ?_⟩
      exact book.takesWidest_rule r names roles typed record
  | module r =>
      obtain ⟨module, method, hmodule, hmethod⟩ := typed
      obtain ⟨allow, decided⟩ := book.exists_moduleDecision roles r module method hmodule hmethod
      exact ⟨fun _ => record.takesDecision_settle _ allow decided, nofun⟩
  | route r =>
      obtain ⟨path, method, hpath, hmethod⟩ := typed
      obtain ⟨allow, decided⟩ := book.exists_routeDecision roles r path method hpath hmethod
      exact ⟨fun _ => record.takesDecision_settle _ allow decided, nofun⟩

/-- Users may read their own posts. That this is the widest scope is told on a record for it,
and refused on one for a single decision. -/
theorem rule_onRecord_own_posts :
    let book := (enactAll {} [Value.texts ["all", "model:0"],
      Value.texts ["user", "model:post:read:own:1"]]).book
    let request : ModelRequest :=
      { model := .str "post", action := .str "read", scope := .str "own" }
    let opened (kind : CheckKind) : Record := { id := .str "id", kind, args := [] }
    let ruled (kind : CheckKind) (query : Query) :=
      book.rule ({} : OwnerNames).ownership (.kept (opened kind)) (Value.texts ["user"]) query
    (Query.model request).IsTyped ∧ (Query.modelScope request).IsTyped ∧
      (ruled .modelScope (.model request)).2 = .ok (.decision true) ∧
      (ruled .modelScope (.modelScope request)).2 = .ok (.widest (some .own)) ∧
      IsRefused (ruled .model (.modelScope request)).2 := by
  intro book request opened ruled
  have typed : request.IsTyped :=
    ⟨⟨"post", rfl⟩, ⟨"read", rfl⟩, ⟨[], rfl⟩, Or.inr (Or.inr ⟨.own, rfl⟩)⟩
  have typedWidest : (Query.modelScope request).IsTyped :=
    ⟨⟨"post", rfl⟩, ⟨"read", rfl⟩, ⟨[], rfl⟩, Or.inr (Or.inr ⟨.any, rfl⟩)⟩
  have law (kind : CheckKind) (query : Query) (typed : query.IsTyped) :=
    rule_onRecord book query typed {} ["user"] (opened kind)
  refine ⟨typed, typedWidest, ?_, ?_, ?_⟩
  · obtain ⟨entries, allow, unaudited, decided⟩ :=
      ((law .modelScope (.model request) typed).1 nofun).decided rfl
    cases unaudited
    exact congrArg Prod.snd decided
  · obtain ⟨entries, scope, unaudited, taken⟩ :=
      ((law .modelScope (.modelScope request) typedWidest).2 rfl).taken rfl rfl
    cases unaudited
    exact congrArg Prod.snd taken
  · exact ((law .model (.modelScope request) typedWidest).2 rfl).refused nofun

end Rulebook

end RoleAccess
