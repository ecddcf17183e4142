import RoleAccess.Text.Basic
set_option autoImplicit false

/-! # Tables with text keys

A table is an association list. Writing a key that is present replaces its first entry in
place; writing a new key puts it in front of the first greater key. A table built from the
empty one by writing is therefore sorted and free of repeated keys, so two such tables
with the same look-ups are the same list. The look-up laws hold of every list, sorted or
not.
-/

namespace RoleAccess

/-- An association list with text keys; the first entry of a key counts. -/
abbrev Table (α : Type) := List (Text × α)

namespace Table

variable {α β : Type}

/-- The value under `key`, if there is one. -/
def find? (key : Text) : Table α → Option α
  | [] => none
  | (k, v) :: rest => if k = key then some v else find? key rest

/-- The keys in table order. -/
def keys (table : Table α) : List Text := table.map Prod.fst

/-- Replaces the value of the first entry of `key`. -/
def replace (key : Text) (value : α) : Table α → Table α
  | [] => []
  | (k, v) :: rest => if k = key then (k, value) :: rest else (k, v) :: replace key value rest

/-- Adds an entry in front of the first greater key. -/
def place (key : Text) (value : α) : Table α → Table α
  | [] => [(key, value)]
  | (k, v) :: rest =>
      if key < k then (key, value) :: (k, v) :: rest else (k, v) :: place key value rest

/-- Writes `f` of the present value under `key`. -/
def upsert (key : Text) (f : Option α → α) (table : Table α) : Table α :=
  match table.find? key with
  | some value => table.replace key (f (some value))
  | none => table.place key (f none)

/-- Writes `value` under `key`. -/
def put (key : Text) (value : α) (table : Table α) : Table α :=
  table.upsert key fun _ => value

/-- Applies `f` to every value. -/
def mapValues (f : α → β) (table : Table α) : Table β :=
  table.map fun entry => (entry.1, f entry.2)

/-- The entries of `base`, each overridden by the entry of `extra` with its key, followed by
the entries of `extra` whose key is new. -/
def overrideWith (base extra : Table α) : Table α :=
  extra.foldl
    (fun table entry =>
      match table.find? entry.1 with
      | some _ => table.replace entry.1 entry.2
      | none => table ++ [entry])
    base

/-! ## Look-ups after a write -/

@[simp] theorem find?_nil (key : Text) : find? key ([] : Table α) = none := rfl

theorem find?_replace (table : Table α) (key other : Text) (value : α)
    (present : (table.find? key).isSome) :
    (table.replace key value).find? other =
      if other = key then some value else table.find? other := by
  induction table with
  | nil => simp at present
  | cons entry rest ih =>
      obtain ⟨k, v⟩ := entry
      by_cases hk : k = key
      · subst hk
        by_cases ho : other = k
        · simp [replace, find?, ho]
        · simp [replace, find?, ho, Ne.symm ho]
      · have here : (find? key rest).isSome := by simpa [find?, hk] using present
        by_cases hko : k = other
        · subst hko
          simp [replace, find?, hk]
        · simp [replace, find?, hk, hko, ih here]

theorem find?_place (table : Table α) (key other : Text) (value : α)
    (absent : table.find? key = none) :
    (table.place key value).find? other =
      if other = key then some value else table.find? other := by
  induction table with
  | nil =>
      by_cases ho : other = key
      · simp [place, find?, ho]
      · simp [place, find?, ho, Ne.symm ho]
  | cons entry rest ih =>
      obtain ⟨k, v⟩ := entry
      have hk : k ≠ key := by
        intro h
        simp [find?, h] at absent
      have here : find? key rest = none := by simpa [find?, hk] using absent
      by_cases hlt : key < k
      · by_cases ho : other = key
        · simp [place, hlt, find?, ho]
        · simp [place, hlt, find?, ho, Ne.symm ho]
      · by_cases hko : k = other
        · subst hko
          simp [place, hlt, find?, hk]
        · simp [place, hlt, find?, hko, ih here]

/-- A write changes the entry of its own key and no other. -/
theorem find?_upsert (table : Table α) (key other : Text) (f : Option α → α) :
    (table.upsert key f).find? other =
      if other = key then some (f (table.find? key)) else table.find? other := by
  unfold upsert
  split
  · next value found =>
      rw [found]
      exact find?_replace table key other _ (by simp [found])
  · next absent =>
      rw [absent]
      exact find?_place table key other _ absent

theorem find?_upsert_self (table : Table α) (key : Text) (f : Option α → α) :
    (table.upsert key f).find? key = some (f (table.find? key)) := by
  rw [find?_upsert, if_pos rfl]

theorem find?_put (table : Table α) (key other : Text) (value : α) :
    (table.put key value).find? other =
      if other = key then some value else table.find? other :=
  find?_upsert table key other _

theorem find?_mapValues (f : α → β) (table : Table α) (key : Text) :
    (table.mapValues f).find? key = (table.find? key).map f := by
  induction table with
  | nil => rfl
  | cons entry rest ih =>
      obtain ⟨k, v⟩ := entry
      by_cases hk : k = key
      · simp [mapValues, find?, hk]
      · simpa [mapValues, find?, hk] using ih

/-! ## Writes after a write -/

theorem replace_replace (key : Text) (first second : α) (table : Table α) :
    (table.replace key first).replace key second = table.replace key second := by
  induction table with
  | nil => rfl
  | cons entry rest ih =>
      obtain ⟨k, v⟩ := entry
      by_cases hk : k = key <;> simp [replace, hk, ih]

theorem replace_place (key : Text) (first second : α) (table : Table α)
    (absent : table.find? key = none) :
    (table.place key first).replace key second = table.place key second := by
  induction table with
  | nil => simp [place, replace]
  | cons entry rest ih =>
      obtain ⟨k, v⟩ := entry
      have hk : k ≠ key := by
        rintro rfl
        simp [find?] at absent
      have below : find? key rest = none := by simpa [find?, hk] using absent
      by_cases hlt : key < k
      · simp [place, hlt, replace]
      · simp [place, hlt, replace, hk, ih below]

/-- Two writes under one key are one. -/
theorem upsert_upsert (key : Text) (f g : Option α → α) (table : Table α) :
    (table.upsert key g).upsert key f = table.upsert key fun value => f (some (g value)) := by
  have written := find?_upsert_self table key g
  rw [upsert, written]
  simp only [upsert]
  cases found : table.find? key with
  | none => exact replace_place key _ _ table found
  | some value => exact replace_replace key _ _ table

end Table

end RoleAccess
