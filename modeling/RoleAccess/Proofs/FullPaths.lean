import RoleAccess.Proofs.Paths
set_option autoImplicit false

/-! # Paths in full

A path may leave out the slash in front, and it may end with a slash that stands for the index
segment. In full the slash is there, and the index segment follows a trailing one. However many
slashes a path has, and wherever they are, its segments are those of the path in full, and written
with a slash in front of each they are that path again. So the segments of a path tell it up to
what may be left out. Only the empty text is no path in
this sense: it has no segments, and in full it would have one.
-/

namespace RoleAccess.Path

/-- The path with what a trailing slash stands for. -/
def withIndex (path : Text) : Text :=
  path ++ if path.toList.getLast? = some '/' then "index" else ""

/-- The path in full. -/
def full (path : Text) : Text := (if isAbsolute path then "" else "/") ++ withIndex path

theorem spellOut_eq (path : Text) : spellOut path = withIndex path := by
  unfold spellOut withIndex
  split <;> simp [indexSegment]

/-! ## Paths without a slash in front -/

section Relative

variable {path : Text} (given : path ≠ "") (relative : isAbsolute path = false)

include given

theorem withIndex_root : withIndex ("/" ++ path) = "/" ++ withIndex path := by
  have chars : path.toList ≠ [] := by simpa using given
  have last : ("/" ++ path).toList.getLast? = path.toList.getLast? := by
    rw [Text.toList_append, List.getLast?_append, List.getLast?_eq_some_getLast chars]
    rfl
  rw [withIndex, last, withIndex, Text.append_assoc]

include relative

theorem full_root : full ("/" ++ path) = full path := by
  simp [full, relative, withIndex_root given]

/-- The first piece of a path is empty only if the path starts at the root. -/
theorem dropRoot_splitOn :
    dropRoot (Text.splitOn '/' (spellOut path)) = Text.splitOn '/' (spellOut path) := by
  obtain ⟨c, rest, chars⟩ := List.exists_cons_of_ne_nil (by simpa using given : path.toList ≠ [])
  have noSlash : c ≠ '/' := by
    rintro rfl
    simp [isAbsolute, chars] at relative
  have spelled : ∃ more, (spellOut path).toList = c :: more := by
    rw [spellOut_eq, withIndex, Text.toList_append, chars]
    exact ⟨_, rfl⟩
  obtain ⟨more, spelled⟩ := spelled
  rw [Text.splitOn, spelled, Text.split, if_neg noSlash]
  cases Text.split '/' more with
  | nil => simp [dropRoot]
  | cons piece pieces => simp [dropRoot]

/-- A slash in front of a path is no part of its segments. -/
theorem segments_root : segments ("/" ++ path) = segments path := by
  have front : Text.splitOn '/' ("/" ++ spellOut path) =
      ("" : Text) :: Text.splitOn '/' (spellOut path) := by
    simp [Text.splitOn, Text.split]
  calc segments ("/" ++ path)
      = dropRoot (Text.splitOn '/' ("/" ++ spellOut path)) := by
        rw [segments, spellOut_eq, withIndex_root given, spellOut_eq]
    _ = Text.splitOn '/' (spellOut path) := by rw [front, dropRoot, if_pos rfl]
    _ = segments path := (dropRoot_splitOn given relative).symm

end Relative

/-! ## The segments of a path and the path in full -/

theorem lastSegment_ne_empty (last : Text) : lastSegment last ≠ "" := by
  unfold lastSegment
  split
  · decide
  · assumption

/-- The segments of a path that starts at the root, and what they are written as. -/
theorem exists_segments_of_absolute (path : Text) (absolute : isAbsolute path = true) :
    ∃ (front : List Text) (last : Text), segments path = front ++ [last] ∧ last ≠ "" ∧
      (∀ segment ∈ front ++ [last], ('/' : CodePoint) ∉ segment.toList) ∧
      slashed (front ++ [last]) = full path := by
  obtain ⟨front, last, rfl, free⟩ := exists_slashed path absolute
  refine ⟨front, lastSegment last, segments_slashed front last free, lastSegment_ne_empty last,
    slash_free_segments free, ?_⟩
  rw [← spellOut_slashed front last (free last (by simp)), spellOut_eq, full, absolute, if_pos rfl,
    Text.empty_append]

/-- The segments of any path but the empty one, and what they are written as. -/
theorem exists_segments (path : Text) (given : path ≠ "") :
    ∃ (front : List Text) (last : Text), segments path = front ++ [last] ∧ last ≠ "" ∧
      (∀ segment ∈ front ++ [last], ('/' : CodePoint) ∉ segment.toList) ∧
      slashed (front ++ [last]) = full path := by
  cases absolute : isAbsolute path with
  | true => exact exists_segments_of_absolute path absolute
  | false =>
      rw [← segments_root given absolute, ← full_root given absolute]
      exact exists_segments_of_absolute ("/" ++ path) (isAbsolute_root path)

theorem slashed_segments (path : Text) (given : path ≠ "") :
    slashed (segments path) = full path := by
  obtain ⟨front, last, segments_eq, -, -, written⟩ := exists_segments path given
  rw [segments_eq, written]

theorem segments_full (path : Text) (given : path ≠ "") :
    segments (full path) = segments path := by
  obtain ⟨front, last, segments_eq, notEmpty, free, written⟩ := exists_segments path given
  rw [← written, segments_slashed front last free, segments_eq, lastSegment, if_neg notEmpty]

/-- The segments of a path tell the path in full, and nothing else. -/
theorem segments_eq_iff_full_eq (path other : Text) (given : path ≠ "")
    (givenOther : other ≠ "") : segments path = segments other ↔ full path = full other := by
  constructor
  · intro same
    rw [← slashed_segments path given, same, slashed_segments other givenOther]
  · intro same
    rw [← segments_full path given, same, segments_full other givenOther]

theorem slashed_eq_joinWith (pieces : List Text) (some : pieces ≠ []) :
    slashed pieces = "/" ++ Text.joinWith '/' pieces := by
  cases pieces with
  | nil => exact absurd rfl some
  | cons piece rest => simp [← Text.toList_inj, toList_slashed, Text.joinWith]

theorem full_of_absolute (path : Text) (absolute : isAbsolute path = true) :
    full path = withIndex path := by
  simp [full, absolute]

/-- **The segments of a path are a canonical decomposition of it.** The segments of a path that
is not empty hold no slash, there is at least one, and the last is not empty. Written with a slash
in front of each they are the path in full, and its segments are the same again. So two paths have
the same segments exactly if they are the same in full; of paths that start at the root, exactly if
they are the same once a trailing slash is spelled out; and a slash that is missing in front makes
no difference. -/
theorem segments_canonical (path : Text) (given : path ≠ "") :
    let written := "/" ++ Text.joinWith '/' (segments path)
    (∀ segment ∈ segments path, ('/' : CodePoint) ∉ segment.toList) ∧
      (∃ (front : List Text) (last : Text), segments path = front ++ [last] ∧ last ≠ "") ∧
      segments written = segments path ∧
      written = full path ∧
      (∀ other : Text, other ≠ "" → (segments path = segments other ↔ full path = full other)) ∧
      (∀ other, isAbsolute path = true → isAbsolute other = true →
        (segments path = segments other ↔ withIndex path = withIndex other)) ∧
      (isAbsolute path = false → segments ("/" ++ path) = segments path) := by
  intro written
  obtain ⟨front, last, segments_eq, notEmpty, free, -⟩ := exists_segments path given
  have written_eq : written = full path := by
    rw [← slashed_segments path given]
    exact (slashed_eq_joinWith _ (by simp [segments_eq])).symm
  refine ⟨by rwa [segments_eq], ⟨front, last, segments_eq, notEmpty⟩, ?_, written_eq, ?_, ?_, ?_⟩
  · rw [written_eq, segments_full path given]
  · exact fun other givenOther => segments_eq_iff_full_eq path other given givenOther
  · intro other absolute absoluteOther
    have givenOther : other ≠ "" := by
      rintro rfl
      cases absoluteOther
    rw [segments_eq_iff_full_eq path other given givenOther, full_of_absolute path absolute,
      full_of_absolute other absoluteOther]
  · exact segments_root given

/-- A path with two slashes in front and one behind has an empty segment and the index segment. It
shares them with the path in full; a path with no slash in front shares its segments with the one
that has it. -/
theorem segments_canonical_double_slash :
    segments "//foo/" = (["", "foo", "index"] : List Text) ∧
      ("//foo/" : Text) ≠ "" ∧ ("//foo/index" : Text) ≠ "" ∧
      segments "//foo/" = segments "//foo/index" ∧
      isAbsolute "//foo/" = true ∧ isAbsolute "//foo/index" = true ∧
      withIndex "//foo/" = withIndex "//foo/index" ∧
      ("foo/" : Text) ≠ "" ∧ isAbsolute "foo/" = false ∧ segments "/foo/" = segments "foo/" := by
  obtain ⟨-, -, -, -, byFull, byIndex, -⟩ := segments_canonical "//foo/" (by decide)
  obtain ⟨-, -, -, -, -, -, root⟩ := segments_canonical "foo/" (by decide)
  have same : segments "//foo/" = segments "//foo/index" :=
    (byFull "//foo/index" (by decide)).mpr (by decide)
  refine ⟨by decide, by decide, by decide, same, by decide, by decide, ?_, by decide, by decide, ?_⟩
  · exact (byIndex "//foo/index" (by decide) (by decide)).mp same
  · exact root (by decide)

end RoleAccess.Path
