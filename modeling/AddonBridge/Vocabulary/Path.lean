/-!
# Paths

Appending a segment to a base path.
-/

namespace AddonBridge.Path

def separator : Char := '/'

/-- Whether a segment brings its own separator, of either kind. -/
def startsSeparated (s : String) : Bool := s.toList.head? = some '/' ∨ s.toList.head? = some '\\'

/-- A base path with a segment appended to it. A separator comes between them unless the segment is
empty or starts with one. -/
def join (base segment : String) : String :=
  if segment.isEmpty then base
  else if startsSeparated segment then base ++ segment
  else base.push separator ++ segment

end AddonBridge.Path
