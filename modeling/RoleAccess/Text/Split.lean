import RoleAccess.Text.Basic
set_option autoImplicit false

/-! # Pieces of a text between marks

Splitting at a mark and joining with it. The two are inverse: joining the pieces gives the
text back, and splitting joined pieces gives the pieces back when there is at least one
and none holds the mark.
-/

namespace RoleAccess.Text

/-- The pieces between the occurrences of `mark`; there is always at least one. -/
def split (mark : CodePoint) : List CodePoint → List (List CodePoint)
  | [] => [[]]
  | c :: rest =>
      if c = mark then [] :: split mark rest
      else
        match split mark rest with
        | [] => [[c]]
        | piece :: pieces => (c :: piece) :: pieces

/-- The pieces in order with `mark` between neighbours. -/
def join (mark : CodePoint) : List (List CodePoint) → List CodePoint
  | [] => []
  | [piece] => piece
  | piece :: next :: pieces => piece ++ mark :: join mark (next :: pieces)

/-- The pieces of `text` between the occurrences of `mark`. -/
def splitOn (mark : CodePoint) (text : Text) : List Text :=
  (split mark text.toList).map Text.ofList

/-- The `pieces` in order with `mark` between neighbours. -/
def joinWith (mark : CodePoint) (pieces : List Text) : Text :=
  Text.ofList (join mark (pieces.map Text.toList))

/-! ## Splitting and joining are inverse -/

theorem split_ne_nil (mark : CodePoint) (text : List CodePoint) : split mark text ≠ [] := by
  cases text with
  | nil => simp [split]
  | cons c rest =>
      simp only [split]
      split
      · simp
      · split <;> simp

theorem not_mem_of_mem_split (mark : CodePoint) (text : List CodePoint) :
    ∀ piece ∈ split mark text, mark ∉ piece := by
  induction text with
  | nil => simp [split]
  | cons c rest ih =>
      intro piece hp
      simp only [split] at hp
      split at hp
      · rcases List.mem_cons.mp hp with rfl | hp
        · simp
        · exact ih piece hp
      · next hc =>
          split at hp
          · next h => exact absurd h (split_ne_nil mark rest)
          · next first others h =>
              rcases List.mem_cons.mp hp with rfl | hp
              · have := ih first (by simp [h])
                simp [this, Ne.symm hc]
              · exact ih piece (by simp [h, hp])

theorem join_split (mark : CodePoint) (text : List CodePoint) :
    join mark (split mark text) = text := by
  induction text with
  | nil => rfl
  | cons c rest ih =>
      simp only [split]
      split
      · next hc =>
          cases h : split mark rest with
          | nil => exact absurd h (split_ne_nil mark rest)
          | cons piece pieces =>
              rw [h] at ih
              simp [join, ih, hc]
      · cases h : split mark rest with
        | nil => exact absurd h (split_ne_nil mark rest)
        | cons piece pieces =>
            rw [h] at ih
            cases pieces with
            | nil => simpa [join] using ih
            | cons next pieces => simpa [join] using ih

theorem split_of_not_mem (mark : CodePoint) (piece : List CodePoint) (free : mark ∉ piece) :
    split mark piece = [piece] := by
  induction piece with
  | nil => rfl
  | cons c rest ih =>
      have hc : c ≠ mark := fun h => free (by simp [h])
      have hr : mark ∉ rest := fun h => free (by simp [h])
      simp [split, hc, ih hr]

theorem split_append (mark : CodePoint) (piece rest : List CodePoint) (free : mark ∉ piece) :
    split mark (piece ++ mark :: rest) = piece :: split mark rest := by
  induction piece with
  | nil => simp [split]
  | cons c tail ih =>
      have hc : c ≠ mark := fun h => free (by simp [h])
      have hr : mark ∉ tail := fun h => free (by simp [h])
      simp [split, hc, ih hr]

theorem split_join (mark : CodePoint) (pieces : List (List CodePoint)) (some : pieces ≠ [])
    (free : ∀ piece ∈ pieces, mark ∉ piece) : split mark (join mark pieces) = pieces := by
  induction pieces with
  | nil => exact absurd rfl some
  | cons piece rest ih =>
      cases rest with
      | nil => exact split_of_not_mem mark piece (free piece (by simp))
      | cons next rest =>
          rw [join, split_append mark piece _ (free piece (by simp)),
            ih (by simp) fun p hp => free p (by simp [hp])]

theorem joinWith_splitOn (mark : CodePoint) (text : Text) :
    joinWith mark (splitOn mark text) = text := by
  simp [joinWith, splitOn, Function.comp_def, join_split]

theorem splitOn_joinWith (mark : CodePoint) (pieces : List Text) (some : pieces ≠ [])
    (free : ∀ piece ∈ pieces, mark ∉ piece.toList) :
    splitOn mark (joinWith mark pieces) = pieces := by
  have := split_join mark (pieces.map Text.toList) (by simpa using some)
    (by simpa using free)
  simp [joinWith, splitOn, this, Function.comp_def]

end RoleAccess.Text
