import RoleAccess.Proofs.Records
import RoleAccess.Proofs.SortedTables
set_option autoImplicit false

/-! # What the entries of a computation say

A computation is audited by its entries, and an entry is read as its fields. The notes of a
computation are these fields, entry by entry (`Trace.notes`). Notes add up along a
computation, so they are told one step at a time: a level with decisions makes one note, which
says the verdict, the kind of the level, the decisions and what more there is to say about the
level, and one without decisions makes none (`levelNotes`).
-/

namespace RoleAccess

/-! ## Fields that are added -/

/-- Fields of new names come behind the others. -/
theorem Table.overrideWith_of_new {α : Type} (base extra : Table α)
    (distinct : extra.keys.Nodup) (new : ∀ entry ∈ extra, base.find? entry.1 = none) :
    base.overrideWith extra = base ++ extra := by
  induction extra generalizing base with
  | nil => exact (List.append_nil base).symm
  | cons entry rest ih =>
      obtain ⟨fresh, distinct⟩ := List.nodup_cons.mp distinct
      obtain ⟨first, others⟩ := List.forall_mem_cons.mp new
      have step : base.overrideWith (entry :: rest) = (base ++ [entry]).overrideWith rest := by
        rw [overrideWith, List.foldl_cons, first]
        rfl
      have still_new : ∀ other ∈ rest, Table.find? other.1 (base ++ [entry]) = none := by
        intro other mem
        have absent := (find?_eq_none_iff base other.1).mp (others other mem)
        refine (find?_eq_none_iff _ _).mpr fun found old same => ?_
        rcases List.mem_append.mp old with old | old
        · exact absent found old same
        · rw [List.mem_singleton.mp old] at same
          have repeated : entry.1 ∈ keys rest := same ▸ List.mem_map_of_mem mem
          exact fresh repeated
      rw [step, ih (base ++ [entry]) distinct still_new, List.append_assoc]
      rfl

/-! ## The notes of a computation -/

/-- What an entry says. -/
abbrev Note := Table Value

namespace Trace

variable {α β : Type}

/-- What the entries of a computation say, in order. -/
def notes (t : Trace α) : List Note := t.entries.map Entry.fields

@[simp] theorem notes_mk (entries : List Entry) (result : Except Failure α) :
    notes { entries, result } = entries.map Entry.fields := rfl

theorem notes_pure (a : α) : (pure a : Trace α).notes = [] := rfl

@[simp] theorem notes_ofUse (step : Except Misuse α) : (ofUse step).notes = [] := rfl

/-- The notes of a computation that goes on are followed by those of what comes after. -/
theorem notes_bind (t : Trace α) (f : α → Trace β) (a : α) (result : t.result = .ok a) :
    (t >>= f).notes = t.notes ++ (f a).notes := by
  rw [bind_eq, notes, entries_andThen_ok t f a result, List.map_append]
  rfl

end Trace

/-! ## The note of a level -/

/-- The names of the fields that every note of a level can have. -/
def levelNames : List Text := ["allow", "role", "matched", "rule_type", "rules"]

/-- What more is said about a level: each field once, and none that the note has anyway. -/
structure IsMore (more : Table Value) : Prop where
  distinct : more.keys.Nodup
  new : ∀ field ∈ more, field.1 ∉ levelNames

theorem isMore_nil : IsMore [] := ⟨List.nodup_nil, nofun⟩

theorem keys_subset_levelNames (verdict : Verdict) (ruleType rules : Value) :
    Table.keys (Entry.verdictFields verdict ++ Entry.ruleFields ruleType rules) ⊆
      levelNames := by
  cases verdict <;> simp [Table.keys, Entry.verdictFields, Entry.ruleFields, levelNames]

/-- The entry of a level says its verdict, the kind of the level, the decisions and more about
the level. -/
theorem Entry.fields_level (ruleType : Value) (rules more : Table Value) (isMore : IsMore more)
    (verdict : Verdict) :
    (level ruleType rules verdict more).fields =
      verdictFields verdict ++ ruleFields ruleType (.obj rules) ++ more := by
  apply Table.overrideWith_of_new _ more isMore.distinct
  intro field mem
  refine (Table.find?_eq_none_iff _ _).mpr fun own ownMem same => ?_
  have known : own.1 ∈ levelNames := keys_subset_levelNames _ _ _ (List.mem_map_of_mem ownMem)
  exact isMore.new field mem (same ▸ known)

/-- What is noted about decisions that are consulted with some roles. -/
def Allows.note (allows : Allows) (roles : List Text) (ruleType : Text)
    (more : Table Value) : Note :=
  Entry.verdictFields (allows.verdict roles) ++
    Entry.ruleFields (.str ruleType) (.obj allows.toFields) ++ more

/-- The notes about a level: one if it has decisions, else none. -/
def levelNotes (roles : List Text) (ruleType : Text) (more : Table Value)
    (allows : Option Allows) : List Note :=
  (allows.map fun allows => allows.note roles ruleType more).toList

theorem notes_consultAllows (roles : List Text) (ruleType : Text) (more : Table Value)
    (isMore : IsMore more) (allows : Allows) :
    (consultAllows (Value.texts roles) ruleType allows more).notes =
      levelNotes roles ruleType more (some allows) := by
  rw [consultAllows_texts, Trace.notes, List.map_singleton, Entry.fields_level _ _ more isMore]
  rfl

/-- A level makes its notes, whatever the decision so far. -/
theorem notes_applyLevel (roles : List Text) (ruleType : Text) (more : Table Value)
    (isMore : IsMore more) (allows : Option Allows) (sofar : Bool) :
    (applyLevel (Value.texts roles) ruleType allows more sofar).notes =
      levelNotes roles ruleType more allows := by
  cases allows with
  | none => rfl
  | some allows =>
      have verdict : (consultAllows (Value.texts roles) ruleType allows more).result =
          .ok (allows.verdict roles) := by
        rw [consultAllows_texts]
      rw [applyLevel, Trace.notes_bind _ _ _ verdict, Trace.notes_pure, List.append_nil,
        notes_consultAllows roles ruleType more isMore]

/-! ## Notes on a record -/

/-- What becomes of a record that takes a decision: it gets entries that make some notes, behind
those that it has, and the decision. -/
def Record.TakesNotes (record : Record) (notes : List Note) (allow : Bool)
    (ruled : Trail × Except Failure Bool) : Prop :=
  ∃ entries : List Entry, entries.map Entry.fields = notes ∧
    ruled = (.kept (record.decided entries allow), .ok allow)

/-- An open record takes the notes of a decision that is left on it. -/
theorem Record.takesNotes_settle (record : Record) (isOpen : record.complete = false)
    (t : Trace Bool) (allow : Bool) (result : t.result = .ok allow) :
    record.TakesNotes t.notes allow ((Trail.kept record).settle t) :=
  ⟨t.entries, rfl, Trail.settle_kept record isOpen t allow result⟩

end RoleAccess
