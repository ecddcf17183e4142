import RoleAccess.Decision.Query
import RoleAccess.Proofs.Inquiry
import RoleAccess.Proofs.Targets
set_option autoImplicit false

/-! # Records report what was ruled

A check leaves its decisions on an open record, and a check for the widest scope leaves the
scope as well. Once a query is ruled on, the record is complete, belongs to the same query
under the same id, and holds what the ruling says.
-/

namespace RoleAccess

/-! ## Open records -/

/-- The record after the entries of a decision and the decision itself. -/
def Record.decided (record : Record) (entries : List Entry) (allow : Bool) : Record :=
  { record with
    entries := record.entries ++ entries
    decision := .bool allow
    complete := decide (record.kind ≠ .modelScope) }

/-- The record after a scope. -/
def Record.scoped (record : Record) (scope : Option Scope) : Record :=
  { record with scope, complete := true }

namespace Trail

variable (record : Record) (isOpen : record.complete = false)

include isOpen

/-- An open record takes all entries. -/
theorem run_kept {α : Type} (t : Trace α) :
    (kept record).run t =
      (.kept { record with entries := record.entries ++ t.entries }, t.result) := by
  simp [run, addEntries, change, Record.addEntries_of_open record isOpen, Except.map]

theorem settle_kept (t : Trace Bool) (allow : Bool) (result : t.result = .ok allow) :
    (kept record).settle t = (.kept (record.decided t.entries allow), .ok allow) := by
  simp [settle, run_kept record isOpen, result, setDecision, change, Record.setDecision,
    Record.requireOpen, isOpen, Except.map, Record.decided]

theorem settleScope_kept (scope : Option Scope) :
    (kept record).settleScope scope = (.kept (record.scoped scope), .ok scope) := by
  simp [settleScope, setScope, change, Record.setScope, Record.requireOpen, isOpen, Except.map,
    Record.scoped]

/-- A decision that was left on the record is what the record holds. -/
theorem fst_settle_kept (t : Trace Bool) (allow : Bool)
    (settled : ((kept record).settle t).2 = .ok allow) :
    ((kept record).settle t).1 = .kept (record.decided t.entries allow) := by
  have result := result_of_settle _ t allow settled
  rw [settle_kept record isOpen t allow result]

end Trail

/-! ## Trails that are off -/

namespace Trail

theorem fst_settle_off (t : Trace Bool) : (off.settle t).1 = off := by
  rw [settle, run, addEntries, change]
  cases t.result <;> rfl

end Trail

/-! ## Rulings -/

/-- A record of a query under an id, before the query is ruled on. -/
structure Record.Awaits (record : Record) (id : Value) (query : Query) : Prop where
  id : record.id = id
  kind : record.kind = query.kind
  args : record.args = query.given
  scope : record.scope = none
  isOpen : record.complete = false

/-- A record of a query under an id that holds what was ruled on the query. -/
structure Record.Reports (record : Record) (id : Value) (query : Query) (ruling : Ruling) :
    Prop where
  id : record.id = id
  kind : record.kind = query.kind
  args : record.args = query.given
  decision : record.decision = .bool ruling.allowed
  scope : record.scope = ruling.scope
  complete : record.complete = true

namespace Record.Awaits

variable {record : Record} {id : Value} {query : Query} (awaits : record.Awaits id query)

include awaits

/-- Any query but one for the widest scope is ruled on by one decision. -/
theorem reports_decided (hne : query.kind ≠ .modelScope) (entries : List Entry) (allow : Bool) :
    (record.decided entries allow).Reports id query (.decision allow) where
  id := awaits.id
  kind := awaits.kind
  args := awaits.args
  decision := rfl
  scope := awaits.scope
  complete := by
    rw [decided, awaits.kind]
    exact decide_eq_true hne

/-- A decision leaves the record of a query for the widest scope open. -/
theorem decided (kind : query.kind = .modelScope) (entries : List Entry) (allow : Bool) :
    (record.decided entries allow).Awaits id query where
  id := awaits.id
  kind := awaits.kind
  args := awaits.args
  scope := awaits.scope
  isOpen := by
    rw [Record.decided, awaits.kind, kind]
    rfl

theorem reports_scoped (scope : Option Scope) (decision : record.decision = .bool scope.isSome) :
    (record.scoped scope).Reports id query (.widest scope) where
  id := awaits.id
  kind := awaits.kind
  args := awaits.args
  decision := decision
  scope := rfl
  complete := rfl

end Record.Awaits

namespace Rulebook

variable (book : Rulebook) (ownership : Ownership) (roles : Value)

/-- A decision on a model request that is made for the widest scope leaves the record open. -/
theorem decideModel_awaits (record : Record) (id : Value) (r request : ModelRequest)
    (awaits : record.Awaits id (.modelScope r)) (next : Trail) (allow : Bool)
    (decided : book.decideModel ownership (.kept record) roles request = (next, .ok allow)) :
    ∃ later : Record, next = .kept later ∧ later.decision = .bool allow ∧
      later.Awaits id (.modelScope r) := by
  have kept := Trail.fst_settle_kept record awaits.isOpen _ allow (congrArg Prod.snd decided)
  exact ⟨_, (congrArg Prod.fst decided).symm.trans kept, rfl, awaits.decided rfl _ allow⟩

/-- The record of a query for the widest scope reports the scope. -/
theorem widestScope_reports (record : Record) (id : Value) (r : ModelRequest)
    (awaits : record.Awaits id (.modelScope r)) (scope : Option Scope)
    (ruled : (book.widestScope ownership (.kept record) roles r).2 = .ok scope) :
    ∃ final : Record, (book.widestScope ownership (.kept record) roles r).1 = .kept final ∧
      final.Reports id (.modelScope r) (.widest scope) := by
  -- the last decision before the scope says whether there is one
  have ends (last : Record) (allow : Bool) (found : Option Scope)
      (decision : last.decision = .bool allow) (awaits : last.Awaits id (.modelScope r))
      (agrees : found.isSome = allow)
      (settled : ((Trail.kept last).settleScope found).2 = .ok scope) :
      ∃ final : Record, ((Trail.kept last).settleScope found).1 = .kept final ∧
        final.Reports id (.modelScope r) (.widest scope) := by
    rw [Trail.settleScope_kept last awaits.isOpen] at settled ⊢
    obtain rfl := Except.ok.inj settled
    exact ⟨_, rfl, awaits.reports_scoped found (by rw [decision, agrees])⟩
  unfold widestScope at ruled ⊢
  rcases first : book.decideModel ownership (.kept record) roles (r.inScope .any) with
    ⟨next, e | allow⟩
  · rw [first] at ruled
    cases ruled
  · obtain ⟨later, rfl, decision, awaits'⟩ :=
      book.decideModel_awaits ownership roles record id r _ awaits next allow first
    rw [first] at ruled
    cases allow with
    | true => exact ends later true (some .any) decision awaits' rfl ruled
    | false =>
        rcases second : book.decideModel ownership (.kept later) roles (r.inScope .own) with
          ⟨next, e | allow⟩
        · simp only [second] at ruled
          cases ruled
        · obtain ⟨last, rfl, decision, awaits''⟩ :=
            book.decideModel_awaits ownership roles later id r _ awaits' next allow second
          simp only [second] at ruled ⊢
          cases allow with
          | true => exact ends last true (some .own) decision awaits'' rfl ruled
          | false => exact ends last false none decision awaits'' rfl ruled

/-- The record of a query reports what is ruled on it. -/
theorem rule_reports (record : Record) (id : Value) (query : Query)
    (awaits : record.Awaits id query) (ruling : Ruling)
    (ruled : (book.rule ownership (.kept record) roles query).2 = .ok ruling) :
    ∃ final : Record, (book.rule ownership (.kept record) roles query).1 = .kept final ∧
      final.Reports id query ruling := by
  cases query with
  | modelScope r =>
      obtain ⟨scope, found, rfl⟩ := (map_eq_ok_iff _ _ _).mp ruled
      exact book.widestScope_reports ownership roles record id r awaits scope found
  | model r | module r | route r =>
      obtain ⟨allow, settled, rfl⟩ := (map_eq_ok_iff _ _ _).mp ruled
      exact ⟨_, Trail.fst_settle_kept record awaits.isOpen _ allow settled,
        awaits.reports_decided nofun _ allow⟩

/-- Nothing is left on a trail that is off. -/
theorem fst_rule_off (query : Query) : (book.rule ownership .off roles query).1 = .off := by
  have decided (request : ModelRequest) :
      (book.decideModel ownership .off roles request).1 = .off := Trail.fst_settle_off _
  cases query with
  | modelScope r =>
      show (book.widestScope ownership .off roles r).1 = .off
      unfold widestScope
      rcases first : book.decideModel ownership .off roles (r.inScope .any) with ⟨next, e | allow⟩
      · exact (congrArg Prod.fst first).symm.trans (decided _)
      · obtain rfl : next = .off := (congrArg Prod.fst first).symm.trans (decided _)
        cases allow with
        | true => rfl
        | false =>
            rcases second : book.decideModel ownership .off roles (r.inScope .own) with
              ⟨next, e | allow⟩
            · simp only [second]
              exact (congrArg Prod.fst second).symm.trans (decided _)
            · obtain rfl : next = .off := (congrArg Prod.fst second).symm.trans (decided _)
              simp only [second]
              cases allow <;> rfl
  | model r | module r | route r => exact Trail.fst_settle_off _

end Rulebook

end RoleAccess
