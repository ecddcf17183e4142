import RoleAccess.Rule.Path
set_option autoImplicit false

/-! # Paths and their segments

A path that starts at the root is written as pieces with a slash in front of each. Its
segments are these pieces, but for an empty one at the end, which the index segment stands
for: that is how a trailing slash is read.
-/

namespace RoleAccess.Path

/-- Pieces with a slash in front of each. -/
def slashed : List Text → Text
  | [] => ""
  | piece :: rest => "/" ++ piece ++ slashed rest

@[simp] theorem isAbsolute_root (path : Text) : isAbsolute ("/" ++ path) = true := by
  simp [isAbsolute]

theorem slashed_append (pieces more : List Text) :
    slashed (pieces ++ more) = slashed pieces ++ slashed more := by
  induction pieces with
  | nil => simp [slashed]
  | cons piece rest ih => simp [slashed, ih, Text.append_assoc]

theorem slashed_concat (front : List Text) (last : Text) :
    slashed (front ++ [last]) = slashed front ++ "/" ++ last := by
  simp [slashed_append, slashed, Text.append_assoc]

theorem toList_slashed (piece : Text) (rest : List Text) :
    (slashed (piece :: rest)).toList =
      ('/' : CodePoint) :: Text.join '/' ((piece :: rest).map Text.toList) := by
  induction rest generalizing piece with
  | nil => simp [slashed, Text.join]
  | cons next rest ih =>
      rw [slashed, Text.toList_append, ih next]
      simp [Text.join]

theorem mem_toList_slashed (pieces : List Text) (c : CodePoint)
    (mem : c ∈ (slashed pieces).toList) :
    c = ('/' : CodePoint) ∨ ∃ piece ∈ pieces, c ∈ piece.toList := by
  induction pieces with
  | nil => simp [slashed] at mem
  | cons piece rest ih =>
      simp only [slashed, Text.toList_append, List.mem_append] at mem
      obtain (slash | inPiece) | inRest := mem
      · exact Or.inl (by simpa using slash)
      · exact Or.inr ⟨piece, List.mem_cons_self, inPiece⟩
      · obtain slash | ⟨other, hother, inOther⟩ := ih inRest
        · exact Or.inl slash
        · exact Or.inr ⟨other, List.mem_cons_of_mem _ hother, inOther⟩

theorem mem_toList_of_mem (pieces : List Text) (piece : Text) (mem : piece ∈ pieces) (c : CodePoint)
    (inPiece : c ∈ piece.toList) : c ∈ (slashed pieces).toList := by
  obtain ⟨before, after, rfl⟩ := List.append_of_mem mem
  simp [slashed_append, slashed, inPiece]

/-- Every path that starts at the root is written so. -/
theorem exists_slashed (path : Text) (absolute : isAbsolute path = true) :
    ∃ front last, path = slashed (front ++ [last]) ∧
      ∀ piece ∈ front ++ [last], ('/' : CodePoint) ∉ piece.toList := by
  obtain ⟨chars, hchars⟩ := List.head?_eq_some_iff.mp (of_decide_eq_true absolute)
  obtain none | ⟨front, last, pieces⟩ := List.eq_nil_or_concat (Text.split '/' chars)
  · exact absurd none (Text.split_ne_nil '/' chars)
  · rw [List.concat_eq_append] at pieces
    have free := Text.not_mem_of_mem_split '/' chars
    rw [pieces] at free
    refine ⟨front.map Text.ofList, Text.ofList last, ?_, ?_⟩
    · have joined := Text.join_split '/' chars
      rw [← Text.toList_inj, hchars, ← joined, pieces]
      cases front with
      | nil => simp [toList_slashed]
      | cons piece rest => simp [toList_slashed, Function.comp_def]
    · intro piece hpiece
      have hmem : piece ∈ (front ++ [last]).map Text.ofList := by simpa using hpiece
      obtain ⟨chars, hfree, rfl⟩ := List.mem_map.mp hmem
      simpa using free chars hfree

theorem splitOn_slashed (pieces : List Text) (some : pieces ≠ [])
    (free : ∀ piece ∈ pieces, ('/' : CodePoint) ∉ piece.toList) :
    Text.splitOn '/' (slashed pieces) = ("" : Text) :: pieces := by
  cases pieces with
  | nil => exact absurd rfl some
  | cons piece rest =>
      have split := Text.split_join '/' ((piece :: rest).map Text.toList) (by simp)
        (by simpa using free)
      rw [Text.splitOn, toList_slashed, Text.split, if_pos rfl, split]
      simp [Function.comp_def]

/-- What follows the last slash of a path, once a trailing slash is spelled out. -/
def lastSegment (last : Text) : Text := if last = "" then indexSegment else last

theorem spellOut_slashed (front : List Text) (last : Text)
    (free : ('/' : CodePoint) ∉ last.toList) :
    spellOut (slashed (front ++ [last])) = slashed (front ++ [lastSegment last]) := by
  unfold spellOut lastSegment
  by_cases empty : last = ""
  · have ends : (slashed (front ++ [last])).toList.getLast? = some '/' := by
      simp [slashed_concat, empty]
    rw [if_pos ends, if_pos empty, slashed_concat, slashed_concat, empty]
    simp
  · rw [if_neg empty, if_neg]
    intro slash
    rw [slashed_concat, Text.toList_append, List.getLast?_append] at slash
    cases hlast : last.toList.getLast? with
    | none => exact empty (by simpa using hlast)
    | some c =>
        obtain rfl : c = '/' := by simpa [hlast] using slash
        exact free (List.mem_of_getLast? hlast)

theorem slash_free_lastSegment (last : Text) (free : ('/' : CodePoint) ∉ last.toList) :
    ('/' : CodePoint) ∉ (lastSegment last).toList := by
  unfold lastSegment
  split
  · decide
  · exact free

theorem slash_free_segments {front : List Text} {last : Text}
    (free : ∀ piece ∈ front ++ [last], ('/' : CodePoint) ∉ piece.toList) :
    ∀ segment ∈ front ++ [lastSegment last], ('/' : CodePoint) ∉ segment.toList := by
  intro segment mem
  obtain inFront | isLast := List.mem_append.mp mem
  · exact free segment (List.mem_append_left _ inFront)
  · rw [List.mem_singleton.mp isLast]
    exact slash_free_lastSegment last (free last (by simp))

/-- **The segments of a path are its pieces**, with the index segment for an empty one at the
end. -/
theorem segments_slashed (front : List Text) (last : Text)
    (free : ∀ piece ∈ front ++ [last], ('/' : CodePoint) ∉ piece.toList) :
    segments (slashed (front ++ [last])) = front ++ [lastSegment last] := by
  rw [segments, spellOut_slashed front last (free last (by simp)),
    splitOn_slashed _ (by simp) (slash_free_segments free), dropRoot, if_pos rfl]

end RoleAccess.Path
