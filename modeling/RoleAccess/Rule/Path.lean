import RoleAccess.Text.Split
set_option autoImplicit false

/-! # Route paths

A path is a sequence of segments. A trailing slash stands for the segment `index`, and the
slash a path starts with is not part of the first segment.
-/

namespace RoleAccess.Path

/-- The segment that a trailing slash stands for. -/
def indexSegment : Text := "index"

/-- The path with its trailing slash spelled out. -/
def spellOut (path : Text) : Text :=
  if path.toList.getLast? = some '/' then path ++ indexSegment else path

/-- The pieces without a leading empty one. -/
def dropRoot : List Text → List Text
  | [] => []
  | piece :: rest => if piece = "" then rest else piece :: rest

/-- The segments of a path. -/
def segments (path : Text) : List Text := dropRoot (Text.splitOn '/' (spellOut path))

/-- The path starts at the root. -/
def isAbsolute (path : Text) : Bool := path.toList.head? = some '/'

end RoleAccess.Path
