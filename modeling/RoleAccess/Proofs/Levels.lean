import RoleAccess.Decision.Level
set_option autoImplicit false

/-! # What one level says

A level is consulted with a list of role names. What it says depends only on the decisions
it holds for these roles and for the role everyone has, and not on their order: an allowance
for one of the roles comes first, then a denial for everyone (`levelOpinion`). Consulting a
level makes one entry and comes to exactly this.
-/

namespace RoleAccess

/-- Some texts as one value. -/
def Value.texts (texts : List Text) : Value := .list (texts.map .str)

/-- What decisions by role say to some roles: an allowance for one of them, else a denial for
the role everyone has, whether or not it is among them, else nothing. -/
def levelOpinion (roles : List Text) (decision : Text → Option Bool) : Option Bool :=
  if ∃ role ∈ roles, decision role = some true then some true
  else if decision allRole = some false then some false
  else none

theorem levelOpinion_eq_true_iff (roles : List Text) (decision : Text → Option Bool) :
    levelOpinion roles decision = some true ↔ ∃ role ∈ roles, decision role = some true := by
  unfold levelOpinion
  split
  · next h => simp [h]
  · next h => split <;> simp [h]

theorem levelOpinion_eq_false_iff (roles : List Text) (decision : Text → Option Bool) :
    levelOpinion roles decision = some false ↔
      (∀ role ∈ roles, decision role ≠ some true) ∧ decision allRole = some false := by
  unfold levelOpinion
  split
  · next h =>
      obtain ⟨role, hrole, htrue⟩ := h
      simp only [Option.some.injEq, Bool.true_eq_false, false_iff, not_and]
      exact fun none_true => absurd htrue (none_true role hrole)
  · next h =>
      have none_true : ∀ role ∈ roles, decision role ≠ some true :=
        fun role hrole htrue => h ⟨role, hrole, htrue⟩
      split
      · next hall => exact ⟨fun _ => ⟨none_true, hall⟩, fun _ => rfl⟩
      · next hall => simp [hall]

/-- Only the decisions themselves matter. -/
theorem levelOpinion_congr (roles : List Text) {decision decision' : Text → Option Bool}
    (same : ∀ role, decision role = decision' role) :
    levelOpinion roles decision = levelOpinion roles decision' := by
  rw [funext same]

@[simp] theorem levelOpinion_nothing (roles : List Text) :
    levelOpinion roles (fun _ => none) = none := by
  simp [levelOpinion]

/-! ## The verdict on a list of role names -/

/-- What the decisions at one address say to some roles. -/
def Allows.opinion (roles : List Text) (allows : Allows) : Option Bool :=
  levelOpinion roles fun role => allows.find? role

/-- The verdict of the decisions at one address; it names the first allowed role. -/
def Allows.verdict (roles : List Text) (allows : Allows) : Verdict :=
  match roles.find? fun role => allows.find? role == some true with
  | some role => .allowed (.str role)
  | none => if allows.find? allRole = some false then .denied else .silent

theorem Allows.decision?_verdict (roles : List Text) (allows : Allows) :
    (allows.verdict roles).decision? = allows.opinion roles := by
  cases found : roles.find? fun role => allows.find? role == some true with
  | some role =>
      have hrole : role ∈ roles := List.mem_of_find?_eq_some found
      have htrue : allows.find? role = some true := by simpa using List.find?_some found
      have opinion : allows.opinion roles = some true :=
        (levelOpinion_eq_true_iff _ _).mpr ⟨role, hrole, htrue⟩
      rw [opinion, Allows.verdict, found]
      rfl
  | none =>
      have none_true : ¬∃ role ∈ roles, allows.find? role = some true := by
        simpa using found
      rw [Allows.opinion, levelOpinion, if_neg none_true, Allows.verdict, found]
      by_cases hall : allows.find? allRole = some false <;> simp [hall, Verdict.decision?]

namespace Verdict

theorem grants_bool (entry : Option Bool) :
    grants (entry.map Value.bool) = (entry == some true) := by
  rcases entry with _ | _ | _ <;> rfl

theorem refuses_bool (entry : Option Bool) :
    refuses (entry.map Value.bool) = (entry == some false) := by
  rcases entry with _ | _ | _ <;> rfl

/-- The verdict of a level on some role names; it names the first one that is granted. -/
def onTexts (rules : Table Value) (roles : List Text) : Verdict :=
  match roles.find? fun role => grants (rules.find? role) with
  | some role => .allowed (.str role)
  | none => if refuses (rules.find? allRole) then .denied else .silent

/-- No text is refused as a key, so the walk through role names comes to a verdict. -/
theorem ofRoles_texts (rules : Table Value) (roles : List Text) :
    ofRoles rules (roles.map .str) = .ok (onTexts rules roles) := by
  induction roles with
  | nil => rfl
  | cons role rest ih =>
      simp only [List.map_cons, ofRoles, Table.lookup_str]
      by_cases granted : grants (rules.find? role) = true
      · simp [onTexts, granted]
      · -- a role that is not granted is passed over
        have step : onTexts rules (role :: rest) = onTexts rules rest := by
          simp [onTexts, granted]
        rw [step, ← ih, if_neg granted]

theorem onTexts_toFields (allows : Allows) (roles : List Text) :
    onTexts allows.toFields roles = allows.verdict roles := by
  simp [onTexts, Allows.verdict, Allows.toFields, Table.find?_mapValues, grants_bool,
    refuses_bool]

end Verdict

/-! ## Consulting a level -/

/-- Consulting a level makes one entry, with the verdict. -/
theorem consult_texts (roles : List Text) (ruleType : Value) (rules extra : Table Value) :
    consult (Value.texts roles) ruleType rules extra =
      { entries := [.level ruleType rules (Verdict.onTexts rules roles) extra]
        result := .ok (Verdict.onTexts rules roles) } := by
  have judged : Verdict.judge rules (Value.texts roles) = .ok (Verdict.onTexts rules roles) :=
    Verdict.ofRoles_texts rules roles
  simp [consult, judged, Trace.done, Trace.note, Trace.andThen]

theorem consultAllows_texts (roles : List Text) (ruleType : Text) (allows : Allows)
    (extra : Table Value) :
    consultAllows (Value.texts roles) ruleType allows extra =
      { entries := [.level (.str ruleType) allows.toFields (allows.verdict roles) extra]
        result := .ok (allows.verdict roles) } := by
  rw [consultAllows, consult_texts, Verdict.onTexts_toFields]

/-- A level that says something replaces the decision so far. -/
theorem result_applyLevel (roles : List Text) (ruleType : Text) (allow : Option Allows)
    (extra : Table Value) (sofar : Bool) :
    (applyLevel (Value.texts roles) ruleType allow extra sofar).result =
      .ok ((allow.bind (Allows.opinion roles)).getD sofar) := by
  cases allow with
  | none => rfl
  | some allows =>
      simp [applyLevel, consultAllows_texts, Trace.andThen, Verdict.orElse,
        Allows.decision?_verdict]

end RoleAccess
